import ModuleParts.Text.Bytes
import ModuleParts.Text.Blank

/-! # Escapes

What the escapes in names and strings stand for. An escape may give half of a surrogate pair, so a
string is first a list of codes; the halves are joined afterwards.
-/
namespace ModuleParts.Text

def hexDigit? (c : Char) : Option Nat :=
  if c.isDigit then some (c.toNat - '0'.toNat)
  else if 'a' ≤ c && c ≤ 'f' then some (c.toNat - 'a'.toNat + 10)
  else if 'A' ≤ c && c ≤ 'F' then some (c.toNat - 'A'.toNat + 10)
  else none

def isHexDigit (c : Char) : Bool := (hexDigit? c).isSome

def hexValue (digits : List Char) : Nat :=
  (digits.filterMap hexDigit?).foldl (fun value digit => 16 * value + digit) 0

/-- The value of exactly `n` hexadecimal digits at the start of a text. -/
def hexDigits? (n : Nat) (text : List Char) : Option Nat :=
  let digits := text.take n
  if digits.length == n && digits.all isHexDigit then some (hexValue digits) else none

/-- The code after the letter of a Unicode escape: four digits, or any number of them in braces.
The second part counts the characters that it takes. -/
def unicodeEscape? (text : List Char) : Option (Nat × Nat) :=
  match text with
  | '\x7b' :: rest =>
    let digits := rest.takeWhile isHexDigit
    if digits.isEmpty || (rest.drop digits.length).head? != some '\x7d' then none
    else if hexValue digits ≤ 0x10ffff then some (hexValue digits, digits.length + 2)
    else none
  | _ => (hexDigits? 4 text).map (·, 4)

/-- The codes that an escape stands for, given what follows its backslash, and the number of
characters that it takes. A line end after the backslash stands for nothing. -/
def escape? (text : List Char) : Option (List Nat × Nat) :=
  match text with
  | [] => none
  | 'n' :: _ => some ([0x0a], 1)
  | 't' :: _ => some ([0x09], 1)
  | 'b' :: _ => some ([0x08], 1)
  | 'v' :: _ => some ([0x0b], 1)
  | 'f' :: _ => some ([0x0c], 1)
  | 'r' :: _ => some ([0x0d], 1)
  | 'x' :: rest => (hexDigits? 2 rest).map ([·], 3)
  | 'u' :: rest => (unicodeEscape? rest).map fun (code, n) => ([code], n + 1)
  | '\r' :: '\n' :: _ => some ([], 2)
  | c :: rest =>
    if isLineEnd c then some ([], 1)
    else if !c.isDigit then some ([c.toNat], 1)
    else if c == '0' && !(rest.head?.any Char.isDigit) then some ([0], 1)
    else none

/-- The codes of a text with escapes. -/
def unescape? : List Char → Option (List Nat)
  | [] => some []
  | c :: rest =>
    if c == '\\' then do
      let (codes, n) ← escape? rest
      return codes ++ (← unescape? (rest.drop n))
    else do
      return c.toNat :: (← unescape? rest)
termination_by text => text.length
decreasing_by all_goals (simp only [List.length_cons, List.length_drop]; omega)

def isHighHalf (code : Nat) : Bool := 0xd800 ≤ code && code < 0xdc00

def isLowHalf (code : Nat) : Bool := 0xdc00 ≤ code && code < 0xe000

/-- Codes with surrogate pairs joined. -/
def joinHalves : List Nat → List Nat
  | high :: low :: rest =>
    if isHighHalf high && isLowHalf low then
      (0x10000 + (high - 0xd800) * 0x400 + (low - 0xdc00)) :: joinHalves rest
    else high :: joinHalves (low :: rest)
  | codes => codes

def isHalf (code : Nat) : Bool := isHighHalf code || isLowHalf code

/-- The four hexadecimal digits of a code below U+10000. -/
def hexText (code : Nat) : List Char :=
  [code / 0x1000, code / 0x100, code / 0x10, code].map fun n => Nat.digitChar (n % 16)

/-- The text of a list of codes. Where a lone half remains, it is written as a replacement
character with its four digits, and so is then a replacement character itself. -/
def ofCodes (codes : List Nat) : List Char :=
  let joined := joinHalves codes
  if joined.any isHalf then
    joined.flatMap fun code =>
      if isHalf code || code == replacement.toNat then replacement :: hexText code
      else [Char.ofNat code]
  else joined.map Char.ofNat

end ModuleParts.Text
