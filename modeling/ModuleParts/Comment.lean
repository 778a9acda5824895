import ModuleParts.Span
import ModuleParts.Text.Bytes

/-! # Comments of a program

The comment table of a program, in the order of the text. A leading comment knows the offset of
the token that it leads.
-/
namespace ModuleParts

inductive CommentKind where
  | line
  | block
deriving DecidableEq, Repr, Inhabited

structure Comment where
  kind : CommentKind
  span : Span
  attachedTo : Option Nat
deriving DecidableEq, Repr, Inhabited

namespace Comment

/-- The comment without its delimiters. -/
def content (comment : Comment) : Span :=
  match comment.kind with
  | .line => ⟨comment.span.start + 2, comment.span.stop⟩
  | .block => ⟨comment.span.start + 2, comment.span.stop - 2⟩

def value (text : List Char) (comment : Comment) : List Char :=
  Text.slice text comment.content.start comment.content.stop

end Comment

end ModuleParts
