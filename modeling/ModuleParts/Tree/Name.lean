import ModuleParts.Span

/-! # Names and literals

The leaves of the syntax tree, and the import and export clauses that are made of leaves only.
-/
namespace ModuleParts

structure Identifier where
  span : Span
  name : String
deriving DecidableEq, Repr, Inhabited

structure StringLiteral where
  span : Span
  value : String
deriving DecidableEq, Repr, Inhabited

structure NumberLiteral where
  span : Span
  value : Nat
deriving DecidableEq, Repr, Inhabited

/-- A string that stands alone at the start of a program. -/
structure Directive where
  span : Span
  literal : StringLiteral
deriving DecidableEq, Repr, Inhabited

/-- A name in an import or export clause. -/
inductive ModuleName where
  | name (id : Identifier)
  | reference (id : Identifier)
  | string (literal : StringLiteral)
deriving DecidableEq, Repr, Inhabited

/-- The text that a clause name stands for. -/
def ModuleName.text : ModuleName → String
  | .name id => id.name
  | .reference id => id.name
  | .string literal => literal.value

/-- A name that is written out: of a property, an enumeration member, an ambient module. -/
inductive PropertyName where
  | identifier (id : Identifier)
  | string (literal : StringLiteral)
  | number (literal : NumberLiteral)
deriving DecidableEq, Repr, Inhabited

inductive ImportSpecifier where
  | named (span : Span) (imported : ModuleName) (binding : Identifier) (typeOnly : Bool)
  | default (span : Span) (binding : Identifier)
  | namespace (span : Span) (binding : Identifier)
deriving DecidableEq, Repr, Inhabited

namespace ImportSpecifier

def span : ImportSpecifier → Span
  | .named span _ _ _ => span
  | .default span _ => span
  | .namespace span _ => span

def binding : ImportSpecifier → Identifier
  | .named _ _ binding _ => binding
  | .default _ binding => binding
  | .namespace _ binding => binding

def kind : ImportSpecifier → String
  | .named .. => "ImportSpecifier"
  | .default .. => "ImportDefaultSpecifier"
  | .namespace .. => "ImportNamespaceSpecifier"

end ImportSpecifier

/-- The phase that an import asks for instead of evaluation. -/
inductive ImportPhase where
  | source
  | defer
deriving DecidableEq, Repr, Inhabited

/-- An import declaration. `import "m"` has no specifier list, `import {} from "m"` an empty one. -/
structure ImportDecl where
  span : Span
  specifiers : Option (List ImportSpecifier)
  source : StringLiteral
  phase : Option ImportPhase
  typeOnly : Bool
deriving DecidableEq, Repr, Inhabited

structure ExportSpecifier where
  span : Span
  localName : ModuleName
  exported : ModuleName
  typeOnly : Bool
deriving DecidableEq, Repr, Inhabited

/-- `export * from "m"` and `export * as ns from "m"`. -/
structure ExportAll where
  span : Span
  exported : Option ModuleName
  source : StringLiteral
  typeOnly : Bool
deriving DecidableEq, Repr, Inhabited

/-- What `import a = …` refers to. -/
inductive ModuleReference where
  | external (span : Span) (source : StringLiteral)
  | entity (id : Identifier)
deriving DecidableEq, Repr, Inhabited

structure ImportEquals where
  span : Span
  id : Identifier
  reference : ModuleReference
  typeOnly : Bool
deriving DecidableEq, Repr, Inhabited

inductive NamespaceKeyword where
  | module
  | namespace
deriving DecidableEq, Repr, Inhabited

/-- One name of a dotted namespace, with the keyword and the extent of the part that it opens. -/
structure NamespaceHead where
  span : Span
  name : PropertyName
  keyword : NamespaceKeyword
  declare : Bool
deriving DecidableEq, Repr, Inhabited

end ModuleParts
