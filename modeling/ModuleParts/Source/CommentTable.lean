import ModuleParts.Source.Token

/-! # Comment tables

One pass over the lexemes of a text decides which comments lead a token. A comment is pending
until a token comes, which it then leads, or until its line ends after other code, when it is
settled as the comment of what came before.
-/
namespace ModuleParts

structure CommentTable where
  settled : List Comment
  pending : List Comment
  /-- No token has come since the line began. -/
  freshLine : Bool
  /-- The last token keeps a comment behind it for what follows: an equals sign or an opening
  parenthesis. -/
  expecting : Bool
deriving DecidableEq, Repr, Inhabited

namespace CommentTable

def empty : CommentTable := ⟨[], [], true, false⟩

def toList (table : CommentTable) : List Comment := table.settled ++ table.pending

def push (table : CommentTable) (kind : CommentKind) (span : Span) : CommentTable :=
  { table with pending := table.pending ++ [⟨kind, span, none⟩] }

/-- The pending comments lead nothing. -/
def settle (table : CommentTable) : CommentTable :=
  { table with settled := table.toList, pending := [] }

/-- The pending comments lead the token that starts here. -/
def attach (table : CommentTable) (start : Nat) (expecting : Bool) : CommentTable where
  settled := table.settled ++
    table.pending.map fun comment => { comment with attachedTo := some start }
  pending := []
  freshLine := false
  expecting := expecting

def endLine (table : CommentTable) : CommentTable :=
  { (if table.freshLine then table else table.settle) with freshLine := true }

def step (table : CommentTable) : Lexeme → CommentTable
  | .comment .block span _ => table.push .block span
  | .comment .line span _ =>
    let after := table.push .line span
    { (if table.freshLine || table.expecting then after else after.settle) with freshLine := true }
  | .lineEnd plain => if plain then table.endLine else table
  | .hashbang span => table.attach span.start false
  | .token kind span =>
    table.attach span.start (kind == .mark .assign || kind == .mark .openParen)

def ofLexemes (lexemes : List Lexeme) : List Comment := (lexemes.foldl step empty).toList

end CommentTable

end ModuleParts
