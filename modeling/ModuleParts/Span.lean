/-! # Spans

Places in a source text, counted in bytes of its UTF-8 form. Nothing is asked of the two ends: a
span may be inverted, may cut a character, may lie past the end of the text.
-/
namespace ModuleParts

@[ext] structure Span where
  start : Nat
  stop : Nat
deriving DecidableEq, Repr, Inhabited

namespace Span

/-- The span of a node that stands in no text. -/
def nowhere : Span := ⟨0, 0⟩

/-- From the start of the first to the end of the second. -/
def cover (first last : Span) : Span := ⟨first.start, last.stop⟩

/-- The order by start, then by end. -/
def le (a b : Span) : Bool := a.start < b.start || (a.start == b.start && a.stop ≤ b.stop)

end Span

end ModuleParts
