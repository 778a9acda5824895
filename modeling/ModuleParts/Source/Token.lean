import ModuleParts.Comment

/-! # Tokens

A text is a sequence of lexemes: tokens, comments, line ends and the hashbang line. Blanks are no
lexemes. What the grammar sees are the tokens alone, each with a note whether it starts a line.
-/
namespace ModuleParts

inductive Mark where
  | openBrace
  | closeBrace
  | openParen
  | closeParen
  | openBracket
  | closeBracket
  | semicolon
  | comma
  | dot
  | ellipsis
  | colon
  | assign
  | arrow
  | plus
  | minus
  | times
  | bang
  | question
  | atSign
deriving DecidableEq, Repr, Inhabited

inductive TokenKind where
  | mark (mark : Mark)
  | word (name : String) (escaped : Bool)
  | string (value : String)
  | number (value : Nat)
  | finish
deriving DecidableEq, Repr, Inhabited

/-- A piece of text that is no blank. A line end is plain if it is a line feed or a carriage
return, and a comment is broken if a line ends inside it. -/
inductive Lexeme where
  | lineEnd (plain : Bool)
  | comment (kind : CommentKind) (span : Span) (broken : Bool)
  | hashbang (span : Span)
  | token (kind : TokenKind) (span : Span)
deriving DecidableEq, Repr, Inhabited

structure Token where
  kind : TokenKind
  span : Span
  startsLine : Bool
deriving DecidableEq, Repr, Inhabited

/-- Words that name nothing unless they follow a dot or stand in a clause. -/
def reservedWords : List String :=
  ["break", "case", "catch", "class", "const", "continue", "debugger", "default", "delete", "do",
    "else", "enum", "export", "extends", "false", "finally", "for", "function", "if", "import",
    "in", "instanceof", "new", "null", "return", "super", "switch", "this", "throw", "true", "try",
    "typeof", "var", "void", "while", "with"]

namespace Token

def isMark (token : Token) (mark : Mark) : Bool := token.kind == .mark mark

/-- Whether the token is this word, written without escapes. -/
def isWord (token : Token) (name : String) : Bool := token.kind == .word name false

/-- The name of any word. -/
def name? (token : Token) : Option String :=
  match token.kind with
  | .word name _ => some name
  | _ => none

/-- The name of a word that is not reserved. -/
def identifier? (token : Token) : Option String :=
  token.name?.filter fun name => !reservedWords.contains name

def isIdentifier (token : Token) : Bool := token.identifier?.isSome

def isString (token : Token) : Bool :=
  match token.kind with
  | .string _ => true
  | _ => false

end Token

/-- The tokens of a sequence of lexemes; `fresh` tells whether a line has ended since the last
token. -/
def tokensFrom (fresh : Bool) : List Lexeme → List Token
  | [] => []
  | .lineEnd _ :: rest => tokensFrom true rest
  | .comment _ _ broken :: rest => tokensFrom (fresh || broken) rest
  | .hashbang _ :: rest => tokensFrom fresh rest
  | .token kind span :: rest => ⟨kind, span, fresh⟩ :: tokensFrom false rest

end ModuleParts
