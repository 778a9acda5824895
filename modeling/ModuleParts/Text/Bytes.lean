/-! # Texts cut at byte offsets

A text is its list of characters; an offset counts bytes of the UTF-8 form. A cut exists only
where the offset is a character boundary inside the text.
-/
namespace ModuleParts.Text

/-- Number of bytes of the UTF-8 form. -/
def byteLength : List Char → Nat
  | [] => 0
  | c :: text => c.utf8Size + byteLength text

/-- What follows the first `n` bytes. -/
def dropBytes? : Nat → List Char → Option (List Char)
  | 0, text => some text
  | _ + 1, [] => none
  | n + 1, c :: text => if c.utf8Size ≤ n + 1 then dropBytes? (n + 1 - c.utf8Size) text else none

/-- The first `n` bytes. -/
def takeBytes? : Nat → List Char → Option (List Char)
  | 0, _ => some []
  | _ + 1, [] => none
  | n + 1, c :: text =>
    if c.utf8Size ≤ n + 1 then (takeBytes? (n + 1 - c.utf8Size) text).map (c :: ·) else none

/-- The part from one offset up to another. -/
def slice? (text : List Char) (start stop : Nat) : Option (List Char) :=
  if start ≤ stop then (dropBytes? start text).bind (takeBytes? (stop - start)) else none

/-- The part from one offset up to another, empty where there is none. -/
def slice (text : List Char) (start stop : Nat) : List Char := (slice? text start stop).getD []

/-- Number of UTF-16 units of one character. -/
def units (c : Char) : Nat := if c.val < 0x10000 then 1 else 2

/-- Number of UTF-16 units of a text. -/
def unitLength : List Char → Nat
  | [] => 0
  | c :: text => units c + unitLength text

/-- The character that stands for a broken one. -/
def replacement : Char := Char.ofNat 0xfffd

/-- The first `n` bytes, with a replacement character for a character that they cut. -/
def takeBytesLossy : Nat → List Char → List Char
  | 0, _ => []
  | _ + 1, [] => []
  | n + 1, c :: text =>
    if c.utf8Size ≤ n + 1 then c :: takeBytesLossy (n + 1 - c.utf8Size) text else [replacement]

end ModuleParts.Text
