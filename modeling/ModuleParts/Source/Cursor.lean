import ModuleParts.Source.Fault
import ModuleParts.Source.Token
import ModuleParts.Tree.Name

/-! # Reading tokens

A reading consumes tokens from a cursor. It knows what surrounds it, it may note flaws, and it
stops at the first fault. Repetition goes on only while tokens are consumed, so it always ends.
-/
namespace ModuleParts

/-- What surrounds the place that is being read. -/
structure Scope where
  typescript : Bool
  /-- Whether this is a description of code that lives elsewhere. -/
  ambient : Bool
  inFunction : Bool
deriving DecidableEq, Repr, Inhabited

/-- The tokens ahead, where the last consumed token ends, and the flaws so far, latest first. -/
structure Cursor where
  ahead : List Token
  last : Nat
  flaws : List Flaw
deriving DecidableEq, Repr, Inhabited

/-- The token `n` places ahead; the end of the text has no end. -/
def Cursor.peek (cursor : Cursor) (n : Nat) : Token :=
  (cursor.ahead[n]?).getD ⟨.finish, ⟨cursor.last, cursor.last⟩, false⟩

abbrev Reading := ReaderT Scope (StateT Cursor (Except Fault))

namespace Reading

variable {α : Type}

def peekAt (n : Nat) : Reading Token := do return (← get).peek n

def peek : Reading Token := peekAt 0

/-- Where the next token starts. -/
def here : Reading Nat := do return (← peek).span.start

def fail : Reading α := do throw (.unexpectedToken (← here))

def flaw (flaw : Flaw) : Reading Unit :=
  modify fun cursor => { cursor with flaws := flaw :: cursor.flaws }

/-- From an offset to the end of the last consumed token. -/
def spanFrom (start : Nat) : Reading Span := do return ⟨start, (← get).last⟩

/-- Consumes one token. The end of the text cannot be consumed. -/
def advance : Reading Token := do
  let cursor ← get
  match cursor.ahead with
  | [] => fail
  | token :: rest =>
    if token.kind == .finish then fail
    else
      set { cursor with ahead := rest, last := token.span.stop }
      return token

def atMark (mark : Mark) : Reading Bool := do return (← peek).isMark mark

def atWord (name : String) : Reading Bool := do return (← peek).isWord name

/-- Consumes the mark if it is next. -/
def skipMark (mark : Mark) : Reading Bool := do
  if ← atMark mark then
    let _ ← advance
    return true
  else return false

def skipWord (name : String) : Reading Bool := do
  if ← atWord name then
    let _ ← advance
    return true
  else return false

def expectMark (mark : Mark) : Reading Unit := do
  if !(← skipMark mark) then fail

def expectWord (name : String) : Reading Unit := do
  if !(← skipWord name) then fail

def typescript : Reading Bool := do return (← read).typescript

/-- A statement ends at a semicolon, before a closing brace, at the end of a line or of the text. -/
def atStatementEnd : Reading Bool := do
  let token ← peek
  return token.startsLine || token.kind == .finish || token.isMark .semicolon ||
    token.isMark .closeBrace

/-- Consumes the semicolon of a statement, where it is written. -/
def semicolon : Reading Unit := do
  if !(← skipMark .semicolon) then
    if !(← atStatementEnd) then fail

/-- Any word. -/
def anyName : Reading Identifier := do
  match (← peek).name? with
  | none => fail
  | some name => return ⟨(← advance).span, name⟩

/-- A word that is not reserved. -/
def identifier : Reading Identifier := do
  match (← peek).identifier? with
  | none => fail
  | some name => return ⟨(← advance).span, name⟩

def stringLiteral : Reading StringLiteral := do
  let token ← peek
  match token.kind with
  | .string value =>
    let _ ← advance
    return ⟨token.span, value⟩
  | _ => fail

/-- Reads as long as there is something to read. -/
def whileSome (item : Reading (Option α)) (scope : Scope) (cursor : Cursor) :
    Except Fault (List α × Cursor) :=
  match item scope cursor with
  | .error fault => .error fault
  | .ok (none, after) => .ok ([], after)
  | .ok (some a, after) =>
    if after.ahead.length < cursor.ahead.length then
      match whileSome item scope after with
      | .error fault => .error fault
      | .ok (rest, final) => .ok (a :: rest, final)
    else .error (.unexpectedToken (cursor.peek 0).span.start)
termination_by cursor.ahead.length

/-- All items that there are. -/
def many (item : Reading (Option α)) : Reading (List α) := fun scope cursor =>
  whileSome item scope cursor

/-- Extends what was read from the left, as long as there is an extension. -/
def extend (step : α → Reading (Option α)) (start : α) (scope : Scope) (cursor : Cursor) :
    Except Fault (α × Cursor) :=
  match step start scope cursor with
  | .error fault => .error fault
  | .ok (none, after) => .ok (start, after)
  | .ok (some next, after) =>
    if after.ahead.length < cursor.ahead.length then extend step next scope after
    else .error (.unexpectedToken (cursor.peek 0).span.start)
termination_by cursor.ahead.length

def fromLeft (start : Reading α) (step : α → Reading (Option α)) : Reading α := do
  let first ← start
  fun scope cursor => extend step first scope cursor

/-- Items up to a closing mark, which is consumed. -/
def upTo (close : Mark) (item : Reading α) : Reading (List α) := do
  let items ← many do
    if ← atMark close then return none else return some (← item)
  expectMark close
  return items

/-- Items with commas between them up to a closing mark, which is consumed. A comma may also stand
after the last item. -/
def listUpTo (close : Mark) (item : Reading α) : Reading (List α) :=
  upTo close do
    let a ← item
    if !(← atMark close) then expectMark .comma
    return a

end Reading

end ModuleParts
