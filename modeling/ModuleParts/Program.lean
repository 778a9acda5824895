import ModuleParts.Comment
import ModuleParts.SourceType
import ModuleParts.Tree.Basic

/-! # Programs

A text with the tree that was read from it and its comment table in the order of the text. The
hashbang line and the directives stand apart from the body.
-/
namespace ModuleParts

structure Program where
  span : Span := .nowhere
  sourceType : SourceType := .javascript
  source : String := ""
  comments : List Comment := []
  /-- The extent of the hashbang line. -/
  hashbang : Option Span := none
  directives : List Directive := []
  body : List Stmt

/-- A program as it was read, with what the reader objected to. -/
structure CompilationUnit where
  program : Program
  complaints : List String

def CompilationUnit.hasErrors (unit : CompilationUnit) : Bool := !unit.complaints.isEmpty

/-- A node that someone asks to decompose. -/
inductive Root where
  | unit (unit : CompilationUnit)
  | program (program : Program)
  | statement (statement : Stmt)

end ModuleParts
