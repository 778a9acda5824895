import ModuleParts.Program
import ModuleParts.Record
import ModuleParts.Tree.Spans

/-! # Layout of a program

Everything that a program says about places: its text in lines, its comments, and the spans of all
its nodes in order. From a span the layout reads a location, a placement and the comments around.
-/
namespace ModuleParts

/-- Spans of all nodes of a program, those before the body first. -/
def Program.nodeSpans (program : Program) : List Span :=
  program.hashbang.toList ++ program.directives.flatMap Directive.spans ++
    Stmt.listSpans program.body

structure Layout where
  lines : LineTable
  comments : List Comment
  /-- Spans of all nodes, by start and then by end. -/
  nodes : List Span
  attachComments : Bool

namespace Layout

def ofProgram (program : Program) (attachComments : Bool) : Layout where
  lines := .ofText program.source.toList
  comments := program.comments
  nodes := if attachComments then program.nodeSpans.mergeSort Span.le else []
  attachComments := attachComments

def text (layout : Layout) : List Char := layout.lines.text

def location (layout : Layout) (span : Span) : Location :=
  ⟨layout.lines.point span.start, layout.lines.point span.stop⟩

def placement (layout : Layout) (span : Span) : Placement :=
  if span = .nowhere then {}
  else ⟨some span.start, some span.stop, some (layout.location span)⟩

/-- Comments attached to the token at the start of the span that end before it. -/
def leading (layout : Layout) (span : Span) : List Comment :=
  layout.comments.filter fun comment =>
    comment.attachedTo == some span.start && comment.span.stop ≤ span.start

/-- Comments that follow one another from `cursor` on with only blanks between them. -/
def blankRun (text : List Char) (cursor : Nat) : List Comment → List Comment
  | [] => []
  | comment :: rest =>
    if (Text.slice text cursor comment.span.start).all Text.isBlank then
      comment :: blankRun text comment.span.stop rest
    else []

/-- Comments after the span with only blanks before and between them. -/
def trailing (layout : Layout) (span : Span) : List Comment :=
  blankRun layout.text span.stop (layout.comments.dropWhile fun c => c.span.start < span.stop)

/-- Whether sorted node spans, none of which starts before the span, hold a child of it. One node
with the very span is the parent itself. -/
def holdsChild (span : Span) (ownSeen : Bool) : List Span → Bool
  | [] => false
  | node :: rest =>
    if node.start < span.stop || node == span then
      if span.stop < node.stop then holdsChild span ownSeen rest
      else if node == span && !ownSeen then holdsChild span true rest
      else true
    else false

/-- Whether another node lies in the span. -/
def hasChildren (layout : Layout) (span : Span) : Bool :=
  holdsChild span false (layout.nodes.dropWhile fun node => node.start < span.start)

/-- Comments in the span, when no node there could own them. -/
def inner (layout : Layout) (span : Span) : List Comment :=
  if layout.hasChildren span then []
  else layout.comments.filter fun comment =>
    span.start ≤ comment.span.start && comment.span.stop ≤ span.stop

def commentText (layout : Layout) (comment : Comment) : CommentText where
  kind := comment.kind
  value := String.ofList (comment.value layout.text)
  start := comment.span.start
  stop := comment.span.stop

/-- A group of comments, absent when there are none. -/
def group (layout : Layout) : List Comment → Option (List CommentText)
  | [] => none
  | comments => some (comments.map layout.commentText)

def commentsAround (layout : Layout) (span : Span) : CommentGroups :=
  if layout.attachComments && span != .nowhere then
    { leading := layout.group (layout.leading span)
      trailing := layout.group (layout.trailing span)
      inner := layout.group (layout.inner span) }
  else {}

/-- Placement and comments of one span. -/
def metadata (layout : Layout) (span : Span) : Metadata :=
  ⟨layout.placement span, layout.commentsAround span⟩

/-- One group after another. -/
def joinGroups : Option (List CommentText) → Option (List CommentText) → Option (List CommentText)
  | some first, some second => some (first ++ second)
  | some first, none => some first
  | none, second => second

/-- Placement of a node that was lifted out of a larger one, with the comments around the larger
one; comments that lead the lifted node itself come after those. -/
def liftedMetadata (layout : Layout) (own container : Span) : Metadata :=
  let around := layout.commentsAround container
  let comments :=
    if layout.attachComments && own != .nowhere && own.start != container.start then
      { around with leading := joinGroups around.leading (layout.group (layout.leading own)) }
    else around
  ⟨layout.placement own, comments⟩

end Layout

end ModuleParts
