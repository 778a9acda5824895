import ModuleParts.Printer.Words

/-! # Printed clauses and types

Import and export clauses, and the types of annotations, aliases and interfaces.
-/
namespace ModuleParts

open Printer

/-- A list of specifiers in braces. -/
def Printer.clause : List String → String
  | [] => "\x7b\x7d"
  | items => "\x7b " ++ commaList items ++ " \x7d"

/-- Two names of one binding; equal names are written once. -/
def Printer.renamed (first : String) (second : String) (same : Bool) : String :=
  if same then first else first ++ " as " ++ second

namespace ImportSpecifier

def isNamed : ImportSpecifier → Bool
  | .named .. => true
  | _ => false

def code : ImportSpecifier → String
  | .named _ imported binding typeOnly =>
    word typeOnly "type" ++
      renamed imported.code binding.name (imported.text == binding.name)
  | .default _ binding => binding.name
  | .namespace _ binding => "* as " ++ binding.name

end ImportSpecifier

namespace ImportDecl

/-- The bindings of an import: a default or namespace binding, then the named ones in braces. -/
def bindings (specifiers : List ImportSpecifier) : String :=
  let plain := specifiers.filter (!·.isNamed)
  let named := specifiers.filter ImportSpecifier.isNamed
  let groups := if named.isEmpty && !plain.isEmpty then [] else [clause (named.map (·.code))]
  commaList (plain.map (·.code) ++ groups)

def code (decl : ImportDecl) : String :=
  let start := "import " ++ word decl.typeOnly "type" ++
    ((decl.phase.map fun phase => phase.keyword ++ " ").getD "")
  match decl.specifiers with
  | none => start ++ quote decl.source.value ++ ";"
  | some specifiers => start ++ bindings specifiers ++ " from " ++ quote decl.source.value ++ ";"

end ImportDecl

def ExportSpecifier.code (specifier : ExportSpecifier) : String :=
  word specifier.typeOnly "type" ++ renamed specifier.localName.code specifier.exported.code
    (specifier.localName.text == specifier.exported.text)

def ExportAll.code (decl : ExportAll) : String :=
  "export " ++ word decl.typeOnly "type" ++ "*" ++
    ((decl.exported.map fun name => " as " ++ name.code).getD "") ++ " from " ++
    quote decl.source.value ++ ";"

def ImportEquals.code (decl : ImportEquals) : String :=
  let reference := match decl.reference with
    | .external _ source => "require(" ++ quote source.value ++ ")"
    | .entity id => id.name
  "import " ++ word decl.typeOnly "type" ++ decl.id.name ++ " = " ++ reference ++ ";"

mutual

def TypeExpr.code (depth : Nat) : TypeExpr → String
  | .any _ => "any"
  | .string _ => "string"
  | .number _ => "number"
  | .reference _ name => name.name
  | .literal _ members => braces depth (Signature.codes (depth + 1) members)
  | .other _ text _ => text

def Signature.code (depth : Nat) : Signature → String
  | ⟨_, key, optional, readonly, annotation⟩ =>
    word readonly "readonly" ++ key.code ++ (if optional then "?" else "") ++
      Annotation.optionCode depth annotation ++ ";"

def Signature.codes (depth : Nat) : List Signature → List String
  | [] => []
  | s :: rest => s.code depth :: Signature.codes depth rest

def Annotation.code (depth : Nat) : Annotation → String
  | ⟨_, type⟩ => ": " ++ type.code depth

def Annotation.optionCode (depth : Nat) : Option Annotation → String
  | none => ""
  | some a => a.code depth

end

def Ascription.code (depth : Nat) (note : Ascription) : String :=
  (if note.optional then "?" else "") ++ Annotation.optionCode depth note.annotation

def TypeAlias.code (depth : Nat) (a : TypeAlias) : String :=
  word a.declare "declare" ++ "type " ++ a.id.name ++ " = " ++ a.type.code depth ++ ";"

def Interface.code (depth : Nat) (interface : Interface) : String :=
  word interface.declare "declare" ++ "interface " ++ interface.id.name ++ " " ++
    braces depth (Signature.codes (depth + 1) interface.members)

end ModuleParts
