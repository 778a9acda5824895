import ModuleParts.Source.Escape
import ModuleParts.Source.Fault
import ModuleParts.Source.Token
import ModuleParts.Text.Letter

/-! # Lexemes of a text

Each reading function counts the characters that its lexeme takes, so what follows is always a
part of the text that was dropped by number.
-/
namespace ModuleParts.Lexeme

/-- Blanks between the tokens of a program. Unlike White_Space they hold the byte order mark and
the zero width space. -/
def isGap (c : Char) : Bool := Text.isBlank c || c.toNat == 0xfeff || c.toNat == 0x200b

/-- Characters up to and including the end of a block comment. -/
def blockLength? : List Char → Option Nat
  | [] => none
  | '*' :: '/' :: _ => some 2
  | _ :: rest => (blockLength? rest).map (· + 1)

/-- Characters up to and including the quote that ends a string. A line feed or carriage return
ends no string, and what follows a backslash is passed over. -/
def stringLength? (quote : Char) : List Char → Option Nat
  | [] => none
  | '\\' :: '\r' :: '\n' :: rest => (stringLength? quote rest).map (· + 3)
  | '\\' :: _ :: rest => (stringLength? quote rest).map (· + 2)
  | c :: rest =>
    if c == quote then some 1
    else if c == '\n' || c == '\r' then none
    else (stringLength? quote rest).map (· + 1)

/-- The name at the start of a text, whether it has escapes, and the characters that it takes.
There is none where an escape gives no letter. -/
def name? (isFirst : Bool) : List Char → Option (List Char × Bool × Nat)
  | [] => some ([], false, 0)
  | c :: rest =>
    let fits := if isFirst then Text.isLetter else Text.isNamePart
    if c == '\\' then do
      let 'u' ← rest.head? | none
      let (code, n) ← Text.unicodeEscape? rest.tail
      if fits (Char.ofNat code) then
        let (name, _, m) ← name? false (rest.drop (n + 1))
        return (Char.ofNat code :: name, true, n + m + 2)
      else none
    else if fits c then do
      let (name, escaped, m) ← name? false rest
      return (c :: name, escaped, m + 1)
    else some ([], false, 0)
termination_by text => text.length
decreasing_by all_goals (simp only [List.length_cons, List.length_drop]; omega)

/-- The mark at the start of a text and the characters that it takes. -/
def mark? : List Char → Option (Mark × Nat)
  | '\x7b' :: _ => some (.openBrace, 1)
  | '\x7d' :: _ => some (.closeBrace, 1)
  | '(' :: _ => some (.openParen, 1)
  | ')' :: _ => some (.closeParen, 1)
  | '[' :: _ => some (.openBracket, 1)
  | ']' :: _ => some (.closeBracket, 1)
  | ';' :: _ => some (.semicolon, 1)
  | ',' :: _ => some (.comma, 1)
  | '.' :: '.' :: '.' :: _ => some (.ellipsis, 3)
  | '.' :: _ => some (.dot, 1)
  | ':' :: _ => some (.colon, 1)
  | '=' :: '>' :: _ => some (.arrow, 2)
  | '=' :: _ => some (.assign, 1)
  | '+' :: _ => some (.plus, 1)
  | '-' :: _ => some (.minus, 1)
  | '*' :: _ => some (.times, 1)
  | '!' :: _ => some (.bang, 1)
  | '?' :: _ => some (.question, 1)
  | '@' :: _ => some (.atSign, 1)
  | _ => none

/-- The number of characters of a line, without its end. -/
def lineLength (text : List Char) : Nat := (text.takeWhile fun c => !Text.isLineEnd c).length

/-- The extent of the first `n` characters of a text that starts at an offset. -/
def spanOf (offset : Nat) (text : List Char) (n : Nat) : Span :=
  ⟨offset, offset + Text.byteLength (text.take n)⟩

def lineComment (offset : Nat) (text : List Char) : Lexeme × Nat :=
  let n := lineLength text
  (.comment .line (spanOf offset text n) true, n)

def blockComment (offset : Nat) (text : List Char) : Except Fault (Lexeme × Nat) :=
  match blockLength? (text.drop 2) with
  | none => .error (.unterminatedComment offset)
  | some n =>
    let broken := (text.take (n + 2)).any Text.isLineEnd
    .ok (.comment .block (spanOf offset text (n + 2)) broken, n + 2)

def string (offset : Nat) (quote : Char) (text : List Char) : Except Fault (Lexeme × Nat) :=
  match stringLength? quote (text.drop 1) with
  | none => .error (.unterminatedString offset)
  | some n =>
    match Text.unescape? ((text.drop 1).take (n - 1)) with
    | none => .error (.invalidEscape offset)
    | some codes =>
      let value := String.ofList (Text.ofCodes codes)
      .ok (.token (.string value) (spanOf offset text (n + 1)), n + 1)

/-- A decimal integer. No letter follows it directly. -/
def number (offset : Nat) (text : List Char) : Except Fault (Lexeme × Nat) :=
  let digits := text.takeWhile Char.isDigit
  if ((text.drop digits.length).head?).any Text.isNamePart then .error (.invalidNumber offset)
  else .ok (.token (.number (Nat.ofDigitChars 10 digits 0)) (spanOf offset text digits.length),
    digits.length)

def word (offset : Nat) (text : List Char) : Except Fault (Lexeme × Nat) :=
  match name? true text with
  | none => .error (.invalidEscape offset)
  | some (name, escaped, n) =>
    .ok (.token (.word (String.ofList name) escaped) (spanOf offset text n), n)

/-- The lexeme at the start of a text that starts with this character and is no blank, with the
number of characters that it takes. -/
def next (offset : Nat) (first : Char) (text : List Char) : Except Fault (Lexeme × Nat) :=
  if Text.isLineEnd first then .ok (.lineEnd (first == '\n' || first == '\r'), 1)
  else if first == '/' && (text.drop 1).head? == some '/' then .ok (lineComment offset text)
  else if first == '/' && (text.drop 1).head? == some '*' then blockComment offset text
  else if first == '"' || first == '\'' then string offset first text
  else if first.isDigit then number offset text
  else if first == '\\' || Text.isLetter first then word offset text
  else match mark? text with
    | some (mark, n) => .ok (.token (.mark mark) (spanOf offset text n), n)
    | none => .error (.unexpectedCharacter offset)

/-- The lexemes of a text that starts at an offset, the end of the text last. -/
def listFrom (offset : Nat) : List Char → Except Fault (List Lexeme)
  | [] => .ok [.token .finish ⟨offset, offset⟩]
  | c :: rest =>
    if isGap c then listFrom (offset + c.utf8Size) rest
    else
      match next offset c (c :: rest) with
      | .error fault => .error fault
      | .ok (lexeme, n) =>
        (listFrom (offset + Text.byteLength (c :: rest.take (n - 1))) (rest.drop (n - 1))).map
          (lexeme :: ·)
termination_by text => text.length
decreasing_by all_goals (simp only [List.length_cons, List.length_drop]; omega)

/-- The lexemes of a whole text, which alone may start with a hashbang line. -/
def ofText (text : List Char) : Except Fault (List Lexeme) :=
  match text with
  | '#' :: '!' :: _ =>
    let n := lineLength text
    (listFrom (Text.byteLength (text.take n)) (text.drop n)).map (.hashbang (spanOf 0 text n) :: ·)
  | _ => listFrom 0 text

end ModuleParts.Lexeme
