/-! # Blanks and line ends

Line ends are the four line terminators of ECMAScript. Space is the Unicode property
White_Space, and a blank is a space that ends no line.
-/
namespace ModuleParts.Text

def lineSeparator : Char := Char.ofNat 0x2028

def paragraphSeparator : Char := Char.ofNat 0x2029

def isLineEnd (c : Char) : Bool :=
  c == '\n' || c == '\r' || c == lineSeparator || c == paragraphSeparator

/-- Ranges of the Unicode property White_Space. -/
def spaceRanges : List (Nat × Nat) :=
  [(0x09, 0x0d), (0x20, 0x20), (0x85, 0x85), (0xa0, 0xa0), (0x1680, 0x1680), (0x2000, 0x200a),
    (0x2028, 0x2029), (0x202f, 0x202f), (0x205f, 0x205f), (0x3000, 0x3000)]

/-- Whether one of the ranges holds the character. -/
def inRanges (ranges : List (Nat × Nat)) (c : Char) : Bool :=
  ranges.any fun (low, high) => low ≤ c.toNat && c.toNat ≤ high

def isSpace (c : Char) : Bool := inRanges spaceRanges c

def isBlank (c : Char) : Bool := isSpace c && !isLineEnd c

end ModuleParts.Text
