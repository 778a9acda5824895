import ModuleParts.Error
import ModuleParts.Printer.Tree
import ModuleParts.Program

/-! # Assembly of programs

Loose statements are collected into a program again, which is then printed or written to a sink of
limited room.
-/
namespace ModuleParts

structure Assembly where
  sourceType : SourceType := .javascript
  body : List Stmt := []

/-- A place to write to. It takes `room` bytes, any number when there is no limit; what it says
about more is its failure, if it says anything. -/
structure Sink where
  room : Option Nat := none
  failure : Option String := none

/-- The text that fits into a sink, and the reason when that is not all of it. -/
def Sink.write (sink : Sink) (text : String) : String × Except CodeError Unit :=
  match sink.room with
  | none => (text, .ok ())
  | some room =>
    if text.utf8ByteSize ≤ room then (text, .ok ())
    else
      (String.ofList (Text.takeBytesLossy room text.toList),
        .error (.codegenFailed "Write error"
          (some (sink.failure.getD "failed to write whole buffer"))))

namespace Assembly

def push (assembly : Assembly) (statement : Stmt) : Assembly :=
  { assembly with body := assembly.body ++ [statement] }

def extend (assembly : Assembly) (statements : List Stmt) : Assembly :=
  { assembly with body := assembly.body ++ statements }

def length (assembly : Assembly) : Nat := assembly.body.length

def isEmpty (assembly : Assembly) : Bool := assembly.body.isEmpty

def toProgram (assembly : Assembly) : Program :=
  { sourceType := assembly.sourceType, body := assembly.body }

def print (assembly : Assembly) : String := printStatements assembly.body

def writeTo (assembly : Assembly) (sink : Sink) : String × Except CodeError Unit :=
  sink.write assembly.print

end Assembly

end ModuleParts
