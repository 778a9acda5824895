import ModuleParts.Comment
import ModuleParts.Text.Lines
import ModuleParts.Tree.Basic

/-! # Records of a decomposed module

One record for every binding that a module imports or exports, and the metadata that goes with a
statement: where it stood, and the comments around it. An absent field is different from an empty
one.
-/
namespace ModuleParts

/-- How a binding is imported. -/
inductive BindingKind where
  | value
  | type
  | typeof
deriving DecidableEq, Repr, Inhabited

def BindingKind.isValue (kind : BindingKind) : Bool := kind == .value

/-- One imported or exported binding: the name inside the module, the name that the other side
sees, and the module that is asked for. -/
structure Specifier where
  kind : Option BindingKind := none
  localName : Option String := none
  externalName : Option String := none
  source : Option String := none
  location : Location
deriving DecidableEq, Repr, Inhabited

/-- A record that names nothing but its module. -/
def Specifier.sourceOnly (source : Option String) (location : Location) : Specifier :=
  { source, location }

/-- A comment without its delimiters, with the span of the whole comment. -/
structure CommentText where
  kind : CommentKind
  value : String
  start : Nat
  stop : Nat
deriving DecidableEq, Repr, Inhabited

/-- Where a node stands; all absent for a node that stands in no text. -/
structure Placement where
  start : Option Nat := none
  stop : Option Nat := none
  location : Option Location := none
deriving DecidableEq, Repr, Inhabited

/-- The comments around a node. A group without comments is absent. -/
structure CommentGroups where
  leading : Option (List CommentText) := none
  trailing : Option (List CommentText) := none
  inner : Option (List CommentText) := none
deriving DecidableEq, Repr, Inhabited

def CommentGroups.isEmpty (groups : CommentGroups) : Bool :=
  groups.leading.isNone && groups.trailing.isNone && groups.inner.isNone

structure Metadata where
  placement : Placement := {}
  comments : CommentGroups := {}
deriving DecidableEq, Repr, Inhabited

/-- A statement with the metadata of the nodes that it was made from. -/
structure PlacedStmt where
  statement : Stmt
  metadata : Metadata

/-- What is left of a module: imports, exports, and statements without import or export syntax,
each in the order of first encounter. -/
structure Decomposition where
  imports : List Specifier := []
  exports : List Specifier := []
  statements : List PlacedStmt := []

namespace Decomposition

def isEmpty (parts : Decomposition) : Bool :=
  parts.imports.isEmpty && parts.exports.isEmpty && parts.statements.isEmpty

/-- The statements without their metadata. -/
def body (parts : Decomposition) : List Stmt := parts.statements.map PlacedStmt.statement

def append (first second : Decomposition) : Decomposition where
  imports := first.imports ++ second.imports
  exports := first.exports ++ second.exports
  statements := first.statements ++ second.statements

instance : Append Decomposition := ⟨append⟩

end Decomposition

end ModuleParts
