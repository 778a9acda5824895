import Mathlib.Data.List.TakeWhile
import ModuleParts.Proofs.CommentOrder
import ModuleParts.Proofs.Lines

/-! # Comments after a span

The comments after a span are a run of neighbours in the comment table, from the first comment that
starts at the end of the span or later. The run goes on as long as nothing but blanks stands before the
next comment, and not a comment longer. Only the end of the span matters, so that in a table of separate
comments what follows the first comment of a run is the rest of the run.
-/
namespace ModuleParts

namespace Text

/-- Nothing but blanks stands between the two offsets, that is White_Space that ends no line. Where the
text has no part between them, nothing stands there. -/
def BlankBetween (text : List Char) (start stop : Nat) : Prop :=
  ∀ gap, IsPart text start stop gap → ∀ c ∈ gap, isSpace c = true ∧ c ∉ lineEnds

/-- The spans follow one another with nothing but blanks from the end of each to the start of the next. -/
def BlankChain (text : List Char) (spans : List Span) : Prop :=
  spans.IsChain fun a b => BlankBetween text a.stop b.start

theorem all_isBlank_slice_iff (text : List Char) (start stop : Nat) :
    (slice text start stop).all isBlank = true ↔ BlankBetween text start stop := by
  have hblank (c : Char) : isBlank c = true ↔ isSpace c = true ∧ c ∉ lineEnds := by
    simp [isBlank, ← isLineEnd_iff]
  unfold slice
  cases hslice : slice? text start stop with
  | none =>
    have hnone : BlankBetween text start stop := by
      intro gap hgap
      rw [slice?_eq_some_iff.mpr hgap] at hslice
      cases hslice
    simpa using hnone
  | some part =>
    have hpart := slice?_eq_some_iff.mp hslice
    rw [Option.getD_some, List.all_eq_true]
    constructor
    · intro hall gap hgap c hc
      rw [hgap.unique hpart] at hc
      exact (hblank c).mp (hall c hc)
    · intro hbetween c hc
      exact (hblank c).mpr (hbetween part hpart c hc)

end Text

namespace Layout

/-- The comment table is made of comments that start before the end of the span, of the run, and of more
comments. The run has only blanks before it and between its comments, and no longer one has. -/
structure IsTrailingRun (layout : Layout) (span : Span) (before run after : List Comment) : Prop where
  table : layout.comments = before ++ (run ++ after)
  earlier : ∀ comment ∈ before, comment.span.start < span.stop
  later : ∀ comment ∈ run ++ after, span.stop ≤ comment.span.start
  blank : Text.BlankChain layout.text (span :: run.map Comment.span)
  longest : ∀ other, other <+: run ++ after →
    Text.BlankChain layout.text (span :: other.map Comment.span) → other.length ≤ run.length

/-! ## The walk along the table -/

theorem blankChain_blankRun (text : List Char) (span : Span) (comments : List Comment) :
    Text.BlankChain text (span :: (blankRun text span.stop comments).map Comment.span) := by
  induction comments generalizing span with
  | nil => exact .singleton _
  | cons comment rest ih =>
    unfold blankRun
    split_ifs with hgap
    · rw [Text.all_isBlank_slice_iff] at hgap
      exact List.isChain_cons_cons.mpr ⟨hgap, ih comment.span⟩
    · exact .singleton _

/-- The walk stops only where it has to. -/
theorem isPrefix_blankRun {text : List Char} {span : Span} {comments other : List Comment}
    (hother : other <+: comments)
    (hblank : Text.BlankChain text (span :: other.map Comment.span)) :
    other <+: blankRun text span.stop comments := by
  induction comments generalizing span other with
  | nil => exact hother
  | cons comment rest ih =>
    cases other with
    | nil => exact List.nil_prefix
    | cons first others =>
      obtain ⟨rfl, hothers⟩ := List.cons_prefix_cons.mp hother
      obtain ⟨hgap, hchain⟩ := List.isChain_cons_cons.mp hblank
      rw [blankRun, if_pos ((Text.all_isBlank_slice_iff _ _ _).mpr hgap)]
      exact List.cons_prefix_cons.mpr ⟨rfl, ih hothers hchain⟩

/-- A table with its earlier comments in front is entered behind them. -/
theorem dropWhile_of_split {before after : List Comment} {offset : Nat}
    (hbefore : ∀ comment ∈ before, comment.span.start < offset)
    (hafter : ∀ comment ∈ after, offset ≤ comment.span.start) :
    (before ++ after).dropWhile (fun c => c.span.start < offset) = after := by
  rw [List.dropWhile_append_of_pos fun comment hmem => decide_eq_true (hbefore comment hmem)]
  cases after with
  | nil => rfl
  | cons first rest =>
    have hfirst := hafter first List.mem_cons_self
    exact List.dropWhile_cons_of_neg (by simpa using hfirst)

variable {layout : Layout} {span : Span}

theorem trailing_of_split {before after : List Comment} (htable : layout.comments = before ++ after)
    (hbefore : ∀ comment ∈ before, comment.span.start < span.stop)
    (hafter : ∀ comment ∈ after, span.stop ≤ comment.span.start) :
    layout.trailing span = blankRun layout.text span.stop after := by
  rw [trailing, htable, dropWhile_of_split hbefore hafter]

theorem exists_split (hsorted : layout.comments.Pairwise fun a b => a.span.start ≤ b.span.start)
    (offset : Nat) :
    ∃ before after, layout.comments = before ++ after ∧
      (∀ comment ∈ before, comment.span.start < offset) ∧
      ∀ comment ∈ after, offset ≤ comment.span.start := by
  refine ⟨_, _, (List.takeWhile_append_dropWhile (p := fun c => c.span.start < offset)).symm, ?_, ?_⟩
  · intro comment hmem
    simpa using List.mem_takeWhile_imp hmem
  · intro comment hmem
    rw [dropWhile_start_lt (fun c : Comment => c.span.start) hsorted] at hmem
    simpa using (List.mem_filter.mp hmem).2

theorem isTrailingRun_trailing
    (hsorted : layout.comments.Pairwise fun a b => a.span.start ≤ b.span.start) (span : Span) :
    ∃ before after, layout.IsTrailingRun span before (layout.trailing span) after := by
  obtain ⟨before, after, htable, hbefore, hafter⟩ := exists_split hsorted span.stop
  have htrailing := trailing_of_split htable hbefore hafter
  obtain ⟨more, hmore⟩ := blankRun_isPrefix layout.text span.stop after
  rw [← htrailing] at hmore
  refine ⟨before, more, ?_⟩
  constructor
  · rw [hmore, htable]
  · exact hbefore
  · rw [hmore]
    exact hafter
  · rw [htrailing]
    exact blankChain_blankRun layout.text span after
  · intro other hother hblank
    rw [hmore] at hother
    rw [htrailing]
    exact (isPrefix_blankRun hother hblank).length_le

theorem IsTrailingRun.trailing_eq {before run after : List Comment}
    (h : layout.IsTrailingRun span before run after) : layout.trailing span = run := by
  rw [trailing_of_split h.table h.earlier h.later]
  have hwalk := blankRun_isPrefix layout.text span.stop (run ++ after)
  have hlength := h.longest _ hwalk (blankChain_blankRun layout.text span (run ++ after))
  have hrun := isPrefix_blankRun (List.prefix_append run after) h.blank
  exact (hrun.eq_of_length_le hlength).symm

/-! ## Comments of a table without overlap -/

/-- What follows the first comment of a run is the rest of the run. -/
theorem trailing_of_trailing_eq_cons
    (hsorted : layout.comments.Pairwise fun a b => a.span.start ≤ b.span.start)
    (hdisjoint : layout.comments.Pairwise fun a b =>
      a.span.stop ≤ b.span.start ∨ b.span.stop ≤ a.span.start)
    (hpositive : ∀ comment ∈ layout.comments, comment.span.start < comment.span.stop)
    {comment : Comment} {rest : List Comment} (h : layout.trailing span = comment :: rest) :
    layout.trailing comment.span = rest := by
  have hapart := Comment.pairwise_stop_le_start hsorted hdisjoint hpositive
  obtain ⟨before, after, htable, hbefore, hafter⟩ := exists_split hsorted span.stop
  rw [trailing_of_split htable hbefore hafter] at h
  cases after with
  | nil => cases h
  | cons first more =>
    rw [blankRun] at h
    split_ifs at h
    obtain ⟨rfl, hrest⟩ := List.cons.inj h
    have hstart := hafter first List.mem_cons_self
    have hlength := hpositive first (by rw [htable]; simp)
    rw [htable, List.pairwise_append] at hapart
    have hmore := (List.pairwise_cons.mp hapart.2.1).1
    have hsplit : layout.comments = (before ++ [first]) ++ more := by rw [htable]; simp
    rw [trailing_of_split hsplit ?_ hmore, hrest]
    intro comment hmem
    rcases List.mem_append.mp hmem with hmem | hmem
    · have := hbefore comment hmem
      omega
    · rw [List.mem_singleton.mp hmem]
      exact hlength

end Layout

/-- The comments after a span are the longest run with only blanks before and between them, from the first
comment on that starts at the end of the span or later. They depend on the end of the span alone. Where
comments do not overlap, what follows the first of them is the rest. -/
theorem Layout.trailing_eq_iff_isTrailingRun {layout : Layout}
    (hsorted : layout.comments.Pairwise fun a b => a.span.start ≤ b.span.start) (span : Span) :
    (∀ run, layout.trailing span = run ↔
      ∃ before after, layout.IsTrailingRun span before run after) ∧
      (∀ other : Span, other.stop = span.stop → layout.trailing other = layout.trailing span) ∧
      ((layout.comments.Pairwise fun a b =>
          a.span.stop ≤ b.span.start ∨ b.span.stop ≤ a.span.start) →
        (∀ comment ∈ layout.comments, comment.span.start < comment.span.stop) →
        ∀ comment rest, layout.trailing span = comment :: rest →
          layout.trailing comment.span = rest) := by
  refine ⟨fun run => ⟨?_, ?_⟩, ?_, ?_⟩
  · rintro rfl
    exact isTrailingRun_trailing hsorted span
  · rintro ⟨before, after, hrun⟩
    exact hrun.trailing_eq
  · intro other hstop
    rw [trailing, trailing, hstop]
  · intro hdisjoint hpositive comment rest
    exact trailing_of_trailing_eq_cons hsorted hdisjoint hpositive

namespace Sample

/-- Two comments on one line, with a no-break space between them, and a third one on the next line. -/
def spaced : Program where
  source := "x /*a*/\u00a0/*b*/\n/*c*/"
  comments := [⟨.block, ⟨2, 7⟩, none⟩, ⟨.block, ⟨9, 14⟩, none⟩, ⟨.block, ⟨15, 20⟩, none⟩]
  body := []

end Sample

theorem Sample.trailing_spaced :
    let layout := Layout.ofProgram spaced true
    (layout.comments.Pairwise fun a b => a.span.start ≤ b.span.start) ∧
      layout.trailing ⟨0, 1⟩ = [⟨.block, ⟨2, 7⟩, none⟩, ⟨.block, ⟨9, 14⟩, none⟩] ∧
      (∃ before after, layout.IsTrailingRun ⟨0, 1⟩ before
        [⟨.block, ⟨2, 7⟩, none⟩, ⟨.block, ⟨9, 14⟩, none⟩] after) ∧
      layout.trailing ⟨2, 7⟩ = [⟨.block, ⟨9, 14⟩, none⟩] := by
  intro layout
  have hsorted : layout.comments.Pairwise fun a b => a.span.start ≤ b.span.start := by
    change spaced.comments.Pairwise _
    decide
  have hdisjoint : layout.comments.Pairwise fun a b =>
      a.span.stop ≤ b.span.start ∨ b.span.stop ≤ a.span.start := by
    change spaced.comments.Pairwise _
    decide
  have hpositive : ∀ comment ∈ layout.comments, comment.span.start < comment.span.stop := by
    change ∀ comment ∈ spaced.comments, _
    decide
  have htrailing : layout.trailing ⟨0, 1⟩ =
      [⟨.block, ⟨2, 7⟩, none⟩, ⟨.block, ⟨9, 14⟩, none⟩] := by decide +kernel
  obtain ⟨hrun, -, hrest⟩ := Layout.trailing_eq_iff_isTrailingRun hsorted ⟨0, 1⟩
  exact ⟨hsorted, htrailing, (hrun _).mp htrailing, hrest hdisjoint hpositive _ _ htrailing⟩

end ModuleParts
