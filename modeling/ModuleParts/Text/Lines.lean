import ModuleParts.Text.Blank
import ModuleParts.Text.Bytes

/-! # Lines and columns

A line table lists the offsets at which the lines of a text start. It turns an offset into a line,
counted from 1, and a column, counted from 0 in UTF-16 units. Both are numbers of 32 bits, and the
count of lines starts over after the largest of them.
-/
namespace ModuleParts

structure Position where
  line : UInt32
  column : UInt32
deriving DecidableEq, Repr, Inhabited

structure Location where
  start : Position
  stop : Position
deriving DecidableEq, Repr, Inhabited

namespace Text

/-- Starts of the lines after the first, for a text that begins at `offset`. A carriage return
before a line feed ends no line of its own. -/
def laterLineStarts (offset : Nat) : List Char → List Nat
  | [] => []
  | c :: text =>
    let next := offset + c.utf8Size
    if isLineEnd c && !(c == '\r' && text.head? == some '\n') then
      next :: laterLineStarts next text
    else
      laterLineStarts next text

/-- Offsets at which the lines of a text start. -/
def lineStarts (text : List Char) : List Nat := 0 :: laterLineStarts 0 text

end Text

/-- A text with the starts of its lines. -/
structure LineTable where
  text : List Char
  starts : Array Nat

namespace LineTable

def ofText (text : List Char) : LineTable := ⟨text, (Text.lineStarts text).toArray⟩

/-- Where a search ends: at the entry that it looked for, or at the index where that entry would
have to be inserted. -/
inductive SearchResult where
  | hit (index : Nat)
  | miss (index : Nat)
deriving DecidableEq, Repr, Inhabited

/-- Search for `offset` among the entries from `low` up to but not including `high`, by halving. -/
def search (starts : Array Nat) (offset low high : Nat) : SearchResult :=
  if high ≤ low then .miss low
  else
    let middle := (low + high) / 2
    let start := starts.getD middle 0
    if start = offset then .hit middle
    else if start < offset then search starts offset (middle + 1) high
    else search starts offset low middle
termination_by high - low

/-- Search for a line that starts at `offset`. -/
def find (table : LineTable) (offset : Nat) : SearchResult :=
  search table.starts offset 0 table.starts.size

/-- Index of the line that holds `offset`: the line that starts there, or else the last one that
starts before it. -/
def lineIndex (table : LineTable) (offset : Nat) : Nat :=
  match table.find offset with
  | .hit index => index
  | .miss index => index - 1

/-- Line and column of `offset`. The column is a distance in bytes where the text has no cut at
`offset`. -/
def point (table : LineTable) (offset : Nat) : Position :=
  let index := table.lineIndex offset
  let start := table.starts.getD index 0
  let column := match Text.slice? table.text start offset with
    | some part => Text.unitLength part
    | none => offset - start
  ⟨UInt32.ofNat index + 1, UInt32.ofNat column⟩

end LineTable

end ModuleParts
