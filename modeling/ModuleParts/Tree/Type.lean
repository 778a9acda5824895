import ModuleParts.Tree.Name

/-! # Types

The types of TypeScript that annotations, aliases and interfaces hold.
-/
namespace ModuleParts

mutual

inductive TypeExpr where
  | any (span : Span)
  | string (span : Span)
  | number (span : Span)
  | reference (span : Span) (name : Identifier)
  | literal (span : Span) (members : List Signature)
  /-- A type of any other form: its text as printed and the spans of the nodes in it. -/
  | other (span : Span) (text : String) (nodes : List Span)

/-- A property signature such as `readonly x?: T`. -/
structure Signature where
  span : Span
  key : PropertyName
  optional : Bool
  readonly : Bool
  annotation : Option Annotation

/-- A type with the colon before it. -/
structure Annotation where
  span : Span
  type : TypeExpr

end

/-- What TypeScript may write after a pattern: a question mark and a type. -/
structure Ascription where
  annotation : Option Annotation
  optional : Bool

/-- The pattern stands alone. -/
def Ascription.bare : Ascription := ⟨none, false⟩

structure TypeAlias where
  span : Span
  id : Identifier
  type : TypeExpr
  declare : Bool

structure Interface where
  span : Span
  id : Identifier
  bodySpan : Span
  members : List Signature
  declare : Bool

end ModuleParts
