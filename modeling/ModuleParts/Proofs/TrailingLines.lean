import ModuleParts.Proofs.Positions
import ModuleParts.Proofs.TrailingComments

/-! # Lines of the comments after a span

The walk along the comments after a span looks at what stands between them and never at the comments
themselves. Blanks hold no line break, so that each comment starts on the line where the one before it
ends. The whole run therefore starts on the line of the span just as far as its comments stay on one line:
behind a comment that holds a line break the run goes on below.
-/
namespace ModuleParts

namespace Text

/-- No line break ends after the start of the span and up to its end. -/
def OnOneLine (text : List Char) (span : Span) : Prop :=
  ∀ lineBreak ∈ breaks 0 text, lineBreak.stop ≤ span.start ∨ span.stop < lineBreak.stop

instance (text : List Char) (span : Span) : Decidable (OnOneLine text span) :=
  inferInstanceAs (Decidable (∀ lineBreak ∈ breaks 0 text, _))

/-! ## Line breaks and the characters that make them -/

/-- A line break ends behind a character that ends lines. -/
theorem exists_lineEnd_of_mem_breaks {offset : Nat} {text : List Char} {lineBreak : Span}
    (h : lineBreak ∈ breaks offset text) :
    ∃ before c after, text = before ++ c :: after ∧ c ∈ lineEnds ∧
      offset + byteLength (before ++ [c]) = lineBreak.stop := by
  fun_induction breaks offset text with
  | case1 => simp at h
  | case2 offset text ih =>
    rcases List.mem_cons.mp h with rfl | h
    · exact ⟨['\r'], '\n', text, rfl, by decide, rfl⟩
    · obtain ⟨before, c, after, rfl, hc, hstop⟩ := ih h
      refine ⟨'\r' :: '\n' :: before, c, after, rfl, hc, ?_⟩
      have hpair : '\r'.utf8Size + '\n'.utf8Size = 2 := rfl
      simp only [List.cons_append, byteLength]
      omega
  | case3 offset c text hpair hends ih =>
    rcases List.mem_cons.mp h with rfl | h
    · exact ⟨[], c, text, rfl, hends, rfl⟩
    · obtain ⟨before, d, after, rfl, hd, hstop⟩ := ih h
      refine ⟨c :: before, d, after, rfl, hd, ?_⟩
      simp only [List.cons_append, byteLength]
      omega
  | case4 offset c text hpair hends ih =>
    obtain ⟨before, d, after, rfl, hd, hstop⟩ := ih h
    refine ⟨c :: before, d, after, rfl, hd, ?_⟩
    simp only [List.cons_append, byteLength]
    omega

variable {text part : List Char} {start stop : Nat}

/-- A character that ends inside a part is one of its characters. -/
theorem IsPart.mem_of_between (h : IsPart text start stop part) {before after : List Char} {c : Char}
    (htext : text = before ++ c :: after) (hstart : start < byteLength (before ++ [c]))
    (hstop : byteLength (before ++ [c]) ≤ stop) : c ∈ part := by
  set cut := byteLength (before ++ [c])
  have hfirst : IsPart text 0 cut (before ++ [c]) := ⟨[], after, by simp [htext], rfl, rfl⟩
  have hwhole := h
  obtain ⟨front, rest, hsplit, hfront, -⟩ := hwhole
  have hbegin : IsPart text 0 start front := ⟨[], part ++ rest, by simp [hsplit], rfl, hfront⟩
  obtain ⟨left, hleft⟩ := exists_isPart hbegin.isCut_stop hfirst.isCut_stop (Nat.le_of_lt hstart)
  obtain ⟨right, hright⟩ := exists_isPart hfirst.isCut_stop h.isCut_stop hstop
  obtain rfl : part = left ++ right := h.unique (hleft.append hright)
  have hne : left ≠ [] := by
    rintro rfl
    have := hleft.byteLength_eq
    simp only [byteLength] at this
    omega
  -- what stands before the cut ends with the left half, and so does the character
  have hends : before ++ [c] = front ++ left := hfirst.unique (hbegin.append hleft)
  have hlast := congrArg List.getLast? hends
  rw [List.getLast?_append_of_ne_nil _ hne, List.getLast?_concat] at hlast
  exact List.mem_append_left _ (List.mem_of_getLast? hlast.symm)

/-- Where no character ends a line, everything is on one line. -/
theorem IsPart.onOneLine (h : IsPart text start stop part) (hnone : ∀ c ∈ part, c ∉ lineEnds) :
    OnOneLine text ⟨start, stop⟩ := by
  intro lineBreak hmem
  obtain ⟨before, c, after, htext, hc, hends⟩ := exists_lineEnd_of_mem_breaks hmem
  by_contra hbetween
  rw [not_or, Nat.not_le, Nat.not_lt] at hbetween
  rw [Nat.zero_add] at hends
  rw [← hends] at hbetween
  exact hnone c (h.mem_of_between htext hbetween.1 hbetween.2) hc

theorem BlankBetween.onOneLine (h : BlankBetween text start stop) (hstart : IsCut text start)
    (hstop : IsCut text stop) (hle : start ≤ stop) : OnOneLine text ⟨start, stop⟩ := by
  obtain ⟨gap, hgap⟩ := exists_isPart hstart hstop hle
  exact hgap.onOneLine fun c hc => (h gap hgap c hc).2

end Text

namespace LineTable

/-- The two ends of a span are on the same line just when no line break ends between them. -/
theorem lineIndex_eq_iff_onOneLine {text : List Char} {start stop : Nat} (hle : start ≤ stop) :
    (ofText text).lineIndex stop = (ofText text).lineIndex start ↔
      Text.OnOneLine text ⟨start, stop⟩ := by
  have hfilter : Text.breaksBefore text start =
      (Text.breaksBefore text stop).filter fun lineBreak => lineBreak.stop ≤ start := by
    rw [Text.breaksBefore, Text.breaksBefore, List.filter_filter]
    apply List.filter_congr
    intro lineBreak _
    rw [← Bool.decide_and, decide_eq_decide]
    omega
  rw [lineIndex_eq_length_breaksBefore, lineIndex_eq_length_breaksBefore, hfilter, eq_comm,
    List.length_filter_eq_length_iff]
  simp only [Text.breaksBefore, List.mem_filter, decide_eq_true_eq, Text.OnOneLine, and_imp]
  apply forall₂_congr
  intro lineBreak _
  omega

theorem lineIndex_mono (text : List Char) {a b : Nat} (h : a ≤ b) :
    (ofText text).lineIndex a ≤ (ofText text).lineIndex b := by
  rw [lineIndex_eq_length_breaksBefore, lineIndex_eq_length_breaksBefore]
  exact length_breaksBefore_mono text h

/-- No two lines of a text have one number, unless it is too long for offsets of 32 bits. -/
theorem line_eq_iff_lineIndex_eq {text : List Char} (h : Text.byteLength text < 4294967296)
    (a b : Nat) : ((ofText text).point a).line = ((ofText text).point b).line ↔
      (ofText text).lineIndex a = (ofText text).lineIndex b := by
  have hsize (offset : Nat) : (Text.breaksBefore text offset).length < UInt32.size :=
    Nat.lt_of_le_of_lt (Text.length_breaksBefore_le_byteLength text offset) h
  rw [line_point, line_point, lineIndex_eq_length_breaksBefore, lineIndex_eq_length_breaksBefore,
    UInt32.add_right_inj, ← UInt32.toNat_inj, UInt32.toNat_ofNat_of_lt' (hsize a),
    UInt32.toNat_ofNat_of_lt' (hsize b)]

end LineTable

/-! ## Along the run -/

/-- The line of an offset in the text of a program, as an index into its line table. -/
def Program.lineAt (program : Program) (offset : Nat) : Nat :=
  (LineTable.ofText program.source.toList).lineIndex offset

namespace Layout

variable {program : Program} {attachComments : Bool} {span : Span}

/-- The first comment after a span starts on the line where the span ends. -/
theorem lineAt_start_of_trailing_eq_cons
    (hsorted : program.comments.Pairwise fun a b => a.span.start ≤ b.span.start)
    {comment : Comment} {rest : List Comment}
    (hcut : Text.IsCut program.source.toList comment.span.start)
    (hstop : Text.IsCut program.source.toList span.stop)
    (h : (ofProgram program attachComments).trailing span = comment :: rest) :
    program.lineAt comment.span.start = program.lineAt span.stop := by
  obtain ⟨before, after, hrun⟩ : ∃ before after,
      (ofProgram program attachComments).IsTrailingRun span before (comment :: rest) after := by
    rw [← h]
    exact isTrailingRun_trailing hsorted span
  have hle := hrun.later comment (by simp)
  have hgap := (List.isChain_cons_cons.mp hrun.blank).1
  exact (LineTable.lineIndex_eq_iff_onOneLine hle).mpr (hgap.onOneLine hstop hcut hle)

/-- A comment of the run starts on the line of the span just when all comments before it stay on one
line. -/
theorem lineAt_start_eq_iff_of_trailing_eq_append
    (hsorted : program.comments.Pairwise fun a b => a.span.start ≤ b.span.start)
    (hdisjoint : program.comments.Pairwise fun a b =>
      a.span.stop ≤ b.span.start ∨ b.span.stop ≤ a.span.start)
    (hpositive : ∀ comment ∈ program.comments, comment.span.start < comment.span.stop)
    (hcuts : ∀ comment ∈ program.comments, Text.IsCut program.source.toList comment.span.start ∧
      Text.IsCut program.source.toList comment.span.stop)
    (hstop : Text.IsCut program.source.toList span.stop)
    {before after : List Comment} {comment : Comment}
    (h : (ofProgram program attachComments).trailing span = before ++ comment :: after) :
    program.lineAt comment.span.start = program.lineAt span.stop ↔
      ∀ earlier ∈ before, Text.OnOneLine program.source.toList earlier.span := by
  have hmem : ∀ c ∈ before ++ comment :: after, c ∈ program.comments := by
    rw [← h]
    exact fun c hc => (trailing_sublist _ _).subset hc
  induction before generalizing span with
  | nil =>
    have hcut := (hcuts comment (hmem comment (by simp))).1
    have hfirst := lineAt_start_of_trailing_eq_cons hsorted hcut hstop h
    simpa using hfirst
  | cons first before ih =>
    have hcomment := hmem first (by simp)
    obtain ⟨hcutStart, hcutStop⟩ := hcuts first hcomment
    have hlength := Nat.le_of_lt (hpositive first hcomment)
    have hrest : (ofProgram program attachComments).trailing first.span = before ++ comment :: after :=
      trailing_of_trailing_eq_cons hsorted hdisjoint hpositive h
    have hnext : comment ∈ (ofProgram program attachComments).trailing first.span := by
      rw [hrest]
      simp
    have hfirst := lineAt_start_of_trailing_eq_cons hsorted hcutStart hstop h
    have hlater := ih hcutStop hrest fun c hc => hmem c (List.mem_cons_of_mem _ hc)
    have hown : program.lineAt first.span.stop = program.lineAt first.span.start ↔
        Text.OnOneLine program.source.toList first.span :=
      LineTable.lineIndex_eq_iff_onOneLine hlength
    -- lines only grow along the run, so that they agree at its ends just when they agree throughout
    have hinside : program.lineAt first.span.start ≤ program.lineAt first.span.stop :=
      LineTable.lineIndex_mono _ hlength
    have hbetween : program.lineAt first.span.stop ≤ program.lineAt comment.span.start :=
      LineTable.lineIndex_mono _ (of_mem_trailing hsorted hnext)
    rw [List.forall_mem_cons]
    refine Iff.trans ?_ (and_congr hown hlater)
    omega

end Layout

/-- In a table of separate comments at cuts of the text, a comment after a span starts on the line where
the span ends just when no comment before it in the run holds a line break. So all of them start there
just when all but the last stay on one line each. In a text that offsets of 32 bits can reach, different
lines have different numbers. -/
theorem Layout.trailing_on_line_iff {program : Program} (attachComments : Bool)
    (hsorted : program.comments.Pairwise fun a b => a.span.start ≤ b.span.start)
    (hdisjoint : program.comments.Pairwise fun a b =>
      a.span.stop ≤ b.span.start ∨ b.span.stop ≤ a.span.start)
    (hpositive : ∀ comment ∈ program.comments, comment.span.start < comment.span.stop)
    (hcuts : ∀ comment ∈ program.comments, Text.IsCut program.source.toList comment.span.start ∧
      Text.IsCut program.source.toList comment.span.stop)
    {span : Span} (hstop : Text.IsCut program.source.toList span.stop) :
    let layout := ofProgram program attachComments
    let line (offset : Nat) : Nat := layout.lines.lineIndex offset
    (∀ before comment after, layout.trailing span = before ++ comment :: after →
      (line comment.span.start = line span.stop ↔
        ∀ earlier ∈ before, Text.OnOneLine program.source.toList earlier.span)) ∧
      ((∀ comment ∈ layout.trailing span, line comment.span.start = line span.stop) ↔
        ∀ comment ∈ (layout.trailing span).dropLast,
          Text.OnOneLine program.source.toList comment.span) ∧
      (Text.byteLength program.source.toList < 4294967296 → ∀ a b,
        (layout.lines.point a).line = (layout.lines.point b).line ↔ line a = line b) := by
  intro layout line
  have heach : ∀ before comment after, layout.trailing span = before ++ comment :: after →
      (line comment.span.start = line span.stop ↔
        ∀ earlier ∈ before, Text.OnOneLine program.source.toList earlier.span) :=
    fun before comment after =>
      lineAt_start_eq_iff_of_trailing_eq_append hsorted hdisjoint hpositive hcuts hstop
  refine ⟨heach, ⟨?_, ?_⟩, LineTable.line_eq_iff_lineIndex_eq⟩
  · intro hall
    rcases List.eq_nil_or_concat (layout.trailing span) with hnil | ⟨before, last, hrun⟩
    · simp [hnil]
    · rw [List.concat_eq_append] at hrun
      have hlast : last ∈ layout.trailing span := by simp [hrun]
      rw [hrun, List.dropLast_concat]
      exact (heach before last [] hrun).mp (hall last hlast)
  · intro hall comment hmem
    obtain ⟨before, after, hrun⟩ := List.append_of_mem hmem
    refine (heach before comment after hrun).mpr fun earlier hearlier => hall earlier ?_
    rw [hrun, List.dropLast_append_of_ne_nil (List.cons_ne_nil _ _)]
    exact List.mem_append_left _ hearlier

namespace Sample

/-- Three comments after a statement, the second one with a line break in it. -/
def wrapped : Program where
  source := "debugger; /*a*/ /*b\n*/ //c"
  comments := [⟨.block, ⟨10, 15⟩, none⟩, ⟨.block, ⟨16, 22⟩, none⟩, ⟨.line, ⟨23, 26⟩, none⟩]
  body := [.debugger ⟨0, 9⟩]

theorem comments_wrapped :
    (wrapped.comments.Pairwise fun a b => a.span.start ≤ b.span.start) ∧
      (wrapped.comments.Pairwise fun a b =>
        a.span.stop ≤ b.span.start ∨ b.span.stop ≤ a.span.start) ∧
      (∀ comment ∈ wrapped.comments, comment.span.start < comment.span.stop) ∧
      ∀ comment ∈ wrapped.comments, Text.IsCut wrapped.source.toList comment.span.start ∧
        Text.IsCut wrapped.source.toList comment.span.stop := by
  decide

theorem trailing_wrapped (attachComments : Bool) :
    (Layout.ofProgram wrapped attachComments).trailing ⟨0, 9⟩ = wrapped.comments := by
  cases attachComments <;> decide +kernel

end Sample

/-- The second comment starts on the line of the statement, the third one does not. -/
theorem Sample.trailing_on_line_wrapped :
    let layout := Layout.ofProgram wrapped true
    (layout.lines.point 16).line = (layout.lines.point 9).line ∧
      (layout.lines.point 23).line ≠ (layout.lines.point 9).line := by
  intro layout
  obtain ⟨hsorted, hdisjoint, hpositive, hcuts⟩ := comments_wrapped
  have hstop : Text.IsCut wrapped.source.toList (Span.mk 0 9).stop := by decide
  have hsize : Text.byteLength wrapped.source.toList < 4294967296 := by decide
  obtain ⟨heach, -, hnumbers⟩ :=
    Layout.trailing_on_line_iff true hsorted hdisjoint hpositive hcuts hstop
  have hsecond := heach [_] _ [_] (trailing_wrapped true)
  have hthird := heach [_, _] _ [] (trailing_wrapped true)
  refine ⟨(hnumbers hsize 16 9).mpr (hsecond.mpr (by decide +kernel)), fun heq => ?_⟩
  exact absurd (hthird.mp ((hnumbers hsize 23 9).mp heq)) (by decide +kernel)

/-- Comments after a span need not start on its line: the table is in order, its comments and the span lie
at cuts of the text, and yet the last comment of the run is one line below. -/
theorem Sample.trailing_below_line :
    let layout := Layout.ofProgram wrapped true
    (wrapped.comments.Pairwise fun a b => a.span.start ≤ b.span.start) ∧
      (wrapped.comments.Pairwise fun a b =>
        a.span.stop ≤ b.span.start ∨ b.span.stop ≤ a.span.start) ∧
      (∀ comment ∈ wrapped.comments, comment.span.start < comment.span.stop) ∧
      (∀ comment ∈ wrapped.comments, Text.IsCut wrapped.source.toList comment.span.start ∧
        Text.IsCut wrapped.source.toList comment.span.stop) ∧
      Text.IsCut wrapped.source.toList 9 ∧
      ∃ comment ∈ layout.trailing ⟨0, 9⟩,
        (layout.lines.point comment.span.start).line = 2 ∧ (layout.lines.point 9).line = 1 := by
  intro layout
  obtain ⟨hsorted, hdisjoint, hpositive, hcuts⟩ := comments_wrapped
  refine ⟨hsorted, hdisjoint, hpositive, hcuts, by decide, ⟨.line, ⟨23, 26⟩, none⟩, ?_, ?_, ?_⟩
  · rw [trailing_wrapped true]
    decide
  · decide +kernel
  · decide +kernel

end ModuleParts
