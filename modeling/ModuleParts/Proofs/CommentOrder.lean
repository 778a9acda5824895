import ModuleParts.Proofs.Children
import ModuleParts.Proofs.Metadata

/-! # The order of the comments on a statement

Comments get to a statement in four ways: attached to the item, attached to the node that was lifted
out of it, inside the item, and after it. In a table in the order of the text, and with nodes inside
their items, these four follow one another. Only the second and the third could cross, and they
exclude each other: a node that starts inside the item is a child of it.
-/
namespace ModuleParts

/-- The first span has positive length and lies in the second. -/
def Span.Within (inside outside : Span) : Prop :=
  outside.start ≤ inside.start ∧ inside.start < inside.stop ∧ inside.stop ≤ outside.stop

/-- A comment table in the order of the text: comments with positive length, one after another, and
attached to tokens in the same order. -/
structure Comment.InOrder (comments : List Comment) : Prop where
  sorted : comments.Pairwise fun a b => a.span.start ≤ b.span.start
  disjoint : comments.Pairwise fun a b =>
    a.span.stop ≤ b.span.start ∨ b.span.stop ≤ a.span.start
  nonempty : ∀ comment ∈ comments, comment.span.start < comment.span.stop
  attached : comments.Pairwise fun a b => ∀ x ∈ a.attachedTo, ∀ y ∈ b.attachedTo, x ≤ y

/-- The comments before, inside and after a node in one list. -/
def CommentGroups.all (groups : CommentGroups) : List CommentText :=
  groups.leading.getD [] ++ groups.inner.getD [] ++ groups.trailing.getD []

/-! ## The table -/

namespace Comment

/-- Sorted comments with positive length that do not overlap end before the next one starts. -/
theorem pairwise_stop_le_start {comments : List Comment}
    (hsorted : comments.Pairwise fun a b => a.span.start ≤ b.span.start)
    (hdisjoint : comments.Pairwise fun a b =>
      a.span.stop ≤ b.span.start ∨ b.span.stop ≤ a.span.start)
    (hpositive : ∀ comment ∈ comments, comment.span.start < comment.span.stop) :
    comments.Pairwise fun a b => a.span.stop ≤ b.span.start := by
  apply (hsorted.and hdisjoint).imp_of_mem
  rintro a b _ hb ⟨hle, hapart⟩
  have := hpositive b hb
  omega

def Before (a b : Comment) : Prop := a.span.start < b.span.start

/-- If the first comment is attached to an earlier token, then it comes first. -/
def FollowsAttachment (a b : Comment) : Prop :=
  ∀ x ∈ a.attachedTo, ∀ y ∈ b.attachedTo, x < y → a.Before b

namespace InOrder

variable {comments : List Comment} (h : InOrder comments)

include h

theorem pairwise_before : comments.Pairwise Before := by
  apply (pairwise_stop_le_start h.sorted h.disjoint h.nonempty).imp_of_mem
  intro a b ha _ hapart
  exact Nat.lt_of_lt_of_le (h.nonempty a ha) hapart

theorem followsAttachment {a b : Comment} (ha : a ∈ comments) (hb : b ∈ comments) :
    a.FollowsAttachment b := by
  have hself : ∀ c ∈ comments, FollowsAttachment c c := by
    intro c _ x hx y hy hlt
    have := Option.mem_unique hx hy
    omega
  have hforward : comments.Pairwise FollowsAttachment := by
    apply h.pairwise_before.imp
    intro c d hbefore x _ y _ _
    exact hbefore
  have hbackward : comments.Pairwise (flip FollowsAttachment) := by
    apply h.attached.imp
    intro c d hattached x hx y hy hlt
    have := hattached y hy x hx
    omega
  exact hforward.forall_of_forall_of_flip hself hbackward ha hb

end InOrder

end Comment

/-! ## Bounds of the selections -/

namespace Layout

variable {layout : Layout} {span : Span} {comment : Comment}

theorem of_mem_leading (h : comment ∈ layout.leading span) :
    comment.attachedTo = some span.start ∧ comment.span.stop ≤ span.start := by
  simpa using (List.mem_filter.mp h).2

theorem of_mem_inner (h : comment ∈ layout.inner span) :
    span.start ≤ comment.span.start ∧ comment.span.stop ≤ span.stop := by
  unfold inner at h
  split_ifs at h
  · simp at h
  · simpa using (List.mem_filter.mp h).2

theorem of_mem_trailing (hsorted : layout.comments.Pairwise fun a b => a.span.start ≤ b.span.start)
    (h : comment ∈ layout.trailing span) : span.stop ≤ comment.span.start := by
  have hmem := (blankRun_isPrefix _ _ _).subset h
  rw [dropWhile_start_lt (fun c : Comment => c.span.start) hsorted] at hmem
  simpa using (List.mem_filter.mp hmem).2

/-- A node that lies in a span and starts after it is a child there. -/
theorem hasChildren_of_within (hsorted : layout.Sorted) {own container : Span}
    (hmem : own ∈ layout.nodes) (hwithin : own.Within container)
    (hapart : own.start ≠ container.start) : layout.hasChildren container = true := by
  obtain ⟨hstart, hpositive, hstop⟩ := hwithin
  have hcontainer : container.start < container.stop := by omega
  have hne : own ≠ container := by
    rintro rfl
    exact hapart rfl
  rw [hasChildren_iff_of_lt hsorted hcontainer]
  exact .inl ⟨own, hmem, hne, hstart, by omega, hstop⟩

/-! ## Selections one after another -/

section Ordered

variable (h : Comment.InOrder layout.comments)

include h

/-- Comments that end by the end of a span are followed by those after the span. -/
theorem pairwise_append_trailing {comments : List Comment} (hsubset : comments ⊆ layout.comments)
    (hpairwise : comments.Pairwise Comment.Before)
    (hends : ∀ c ∈ comments, c.span.stop ≤ span.stop) :
    (comments ++ layout.trailing span).Pairwise Comment.Before := by
  have htrailing := h.pairwise_before.sublist (layout.trailing_sublist span)
  refine List.pairwise_append.mpr ⟨hpairwise, htrailing, ?_⟩
  intro a ha b hb
  have hpositive := h.nonempty a (hsubset ha)
  have hend := hends a ha
  have hstart := of_mem_trailing h.sorted hb
  unfold Comment.Before
  omega

/-- Comments of one node: before it, inside it, after it. -/
theorem pairwise_around (hspan : span.start < span.stop) :
    (layout.leading span ++ layout.inner span ++ layout.trailing span).Pairwise Comment.Before := by
  have hleading := layout.leading_sublist span
  have hinner := layout.inner_sublist span
  apply pairwise_append_trailing h (List.append_subset.mpr ⟨hleading.subset, hinner.subset⟩)
  · refine List.pairwise_append.mpr
      ⟨h.pairwise_before.sublist hleading, h.pairwise_before.sublist hinner, ?_⟩
    intro a ha b hb
    have hpositive := h.nonempty a (hleading.subset ha)
    have hend := (of_mem_leading ha).2
    have hstart := (of_mem_inner hb).1
    unfold Comment.Before
    omega
  · refine List.forall_mem_append.mpr ⟨fun c hc => ?_, fun c hc => (of_mem_inner hc).2⟩
    have hend := (of_mem_leading hc).2
    omega

/-- Comments before an item, before a node inside it, and after the item. -/
theorem pairwise_lifted {own container : Span} (hwithin : own.Within container)
    (hapart : own.start ≠ container.start) :
    (layout.leading container ++ layout.leading own ++ layout.trailing container).Pairwise
      Comment.Before := by
  obtain ⟨hstart, hown, hstop⟩ := hwithin
  have hlater : container.start < own.start := by omega
  have hfirst := layout.leading_sublist container
  have hsecond := layout.leading_sublist own
  apply pairwise_append_trailing h (List.append_subset.mpr ⟨hfirst.subset, hsecond.subset⟩)
  · -- a comment before the inner node may stand before the item; its attachment puts it second
    refine List.pairwise_append.mpr
      ⟨h.pairwise_before.sublist hfirst, h.pairwise_before.sublist hsecond, ?_⟩
    intro a ha b hb
    have hfollows := h.followsAttachment (hfirst.subset ha) (hsecond.subset hb)
    exact hfollows _ (of_mem_leading ha).1 _ (of_mem_leading hb).1 hlater
  · refine List.forall_mem_append.mpr ⟨fun c hc => ?_, fun c hc => ?_⟩
    · have hend := (of_mem_leading hc).2
      omega
    · have hend := (of_mem_leading hc).2
      omega

end Ordered

/-! ## Groups as lists -/

theorem getD_group (layout : Layout) (comments : List Comment) :
    (layout.group comments).getD [] = comments.map layout.commentText := by
  cases comments <;> rfl

theorem getD_joinGroups (first second : Option (List CommentText)) :
    (joinGroups first second).getD [] = first.getD [] ++ second.getD [] := by
  cases first <;> cases second <;> simp [joinGroups]

theorem all_commentsAround (hattach : layout.attachComments = true) (hspan : span ≠ .nowhere) :
    (layout.commentsAround span).all =
      (layout.leading span ++ layout.inner span ++ layout.trailing span).map layout.commentText := by
  simp [commentsAround, hattach, hspan, CommentGroups.all, getD_group]

/-- All comments of a lifted node that starts inside an item with children. -/
theorem all_liftedMetadata (hattach : layout.attachComments = true) {own container : Span}
    (hown : own ≠ .nowhere) (hcontainer : container ≠ .nowhere)
    (hapart : own.start ≠ container.start) (hchildren : layout.hasChildren container = true) :
    (layout.liftedMetadata own container).comments.all =
      (layout.leading container ++ layout.leading own ++ layout.trailing container).map
        layout.commentText := by
  have hinner : layout.inner container = [] := by simp [inner, hchildren]
  simp [liftedMetadata, commentsAround, hattach, hown, hcontainer, hapart, CommentGroups.all,
    getD_group, getD_joinGroups, hinner]

/-- The comments of a lifted node are in the order of the text. -/
theorem pairwise_all_liftedMetadata (h : Comment.InOrder layout.comments)
    (hattach : layout.attachComments = true) (hsorted : layout.Sorted) {own container : Span}
    (hmem : own ∈ layout.nodes) (hwithin : own.Within container) :
    (layout.liftedMetadata own container).comments.all.Pairwise fun a b => a.start < b.start := by
  have hbounds := hwithin
  obtain ⟨hstart, hown, hstop⟩ := hbounds
  have hownPlaced : own ≠ .nowhere := by
    rintro rfl
    exact absurd hown (Nat.lt_irrefl 0)
  have hcontainerPlaced : container ≠ .nowhere := by
    rintro rfl
    exact absurd (Nat.lt_of_lt_of_le hown hstop) (Nat.not_lt_zero _)
  by_cases hapart : own.start = container.start
  · have hsame : (layout.liftedMetadata own container).comments =
        layout.commentsAround container := by
      simp [liftedMetadata, hapart]
    rw [hsame, all_commentsAround hattach hcontainerPlaced]
    exact (pairwise_around h (by omega)).map _ fun _ _ hbefore => hbefore
  · have hchildren := hasChildren_of_within hsorted hmem hwithin hapart
    rw [all_liftedMetadata hattach hownPlaced hcontainerPlaced hapart hchildren]
    exact (pairwise_lifted h hwithin hapart).map _ fun _ _ hbefore => hbefore

end Layout

/-! ## Statements of a program -/

/-- When the comment table is in the order of the text and every span that places a statement lies
in its item, then the comments of a statement are in the order of the text, and none comes twice:
not in one group, not in two groups, and not through the item and the node lifted out of it. -/
theorem Program.comments_increasing {program : Program} {whole : Decomposition}
    (hcomments : Comment.InOrder program.comments)
    (hitems : ∀ item ∈ program.body, ∀ span ∈ item.sourceSpans, span.Within item.span)
    (h : program.decompose ⟨true⟩ = .ok whole) :
    ∀ placed ∈ whole.statements,
      placed.metadata.comments.all.Pairwise (fun a b => a.start < b.start) ∧
        placed.metadata.comments.all.Nodup := by
  obtain ⟨-, rfl⟩ := decompose_ok_iff.mp h
  intro placed hplaced
  obtain ⟨item, hitem, hmem⟩ := List.mem_flatMap.mp hplaced
  obtain ⟨statement, hstatement, rfl⟩ := List.mem_map.mp hmem
  have hwithin := hitems item hitem _ (Stmt.span_mem_sourceSpans_of_mem_payload hstatement)
  have hnode : statement.span ∈ (Layout.ofProgram program true).nodes :=
    Layout.mem_nodes_ofProgram
      (Stmt.spans_subset_listSpans hitem (Stmt.span_mem_spans_of_mem_payload hstatement))
  have hincreasing :
      ((Layout.ofProgram program true).liftedMetadata statement.span item.span).comments.all.Pairwise
        fun a b => a.start < b.start :=
    Layout.pairwise_all_liftedMetadata hcomments rfl (Layout.ofProgram_sorted program true) hnode
      hwithin
  refine ⟨hincreasing, hincreasing.imp ?_⟩
  rintro a b hlt rfl
  exact Nat.lt_irrefl _ hlt

namespace Sample

/-- A default export and a block on one line, with comments before, inside and after them. -/
def crowded : Program where
  source := "/*a*/export default /*b*/1;/*c*/ \x7b/*d*/\x7d//e"
  comments := [⟨.block, ⟨0, 5⟩, some 5⟩, ⟨.block, ⟨20, 25⟩, some 25⟩, ⟨.block, ⟨27, 32⟩, some 33⟩,
    ⟨.block, ⟨34, 39⟩, some 39⟩, ⟨.line, ⟨40, 43⟩, none⟩]
  body := [.exportDefault ⟨5, 27⟩ (.expr (.number ⟨⟨25, 26⟩, 1⟩)), .block ⟨⟨33, 40⟩, []⟩]

theorem inOrder_crowded : Comment.InOrder crowded.comments where
  sorted := by decide
  disjoint := by decide
  nonempty := by decide
  attached := by simp [crowded]

theorem layout_crowded : Layout.ofProgram crowded true =
    ⟨.ofText crowded.source.toList, crowded.comments, [⟨5, 27⟩, ⟨25, 26⟩, ⟨33, 40⟩], true⟩ :=
  congrArg (Layout.mk _ _ · _) (List.mergeSort_of_pairwise (by decide))

end Sample

/-- The comment between the two statements is after the first and before the second. -/
theorem Sample.comments_crowded :
    ∃ whole, crowded.decompose ⟨true⟩ = .ok whole ∧
      whole.statements.map (fun s => s.metadata.comments.all.map CommentText.start) =
        [[0, 20, 27], [27, 34, 40]] ∧
      Comment.InOrder crowded.comments ∧
      (∀ item ∈ crowded.body, ∀ span ∈ item.sourceSpans, span.Within item.span) ∧
      ∀ placed ∈ whole.statements,
        placed.metadata.comments.all.Pairwise (fun a b => a.start < b.start) ∧
          placed.metadata.comments.all.Nodup := by
  have hitems : ∀ item ∈ crowded.body, ∀ span ∈ item.sourceSpans, span.Within item.span := by
    simp [crowded, Stmt.sourceSpans, DefaultValue.sourceSpans, Expr.reference?, Expr.span, Stmt.span,
      Span.Within]
  refine ⟨_, rfl, ?_, inOrder_crowded, hitems, ?_⟩
  · rw [layout_crowded]
    decide +kernel
  · exact Program.comments_increasing inOrder_crowded hitems rfl

end ModuleParts
