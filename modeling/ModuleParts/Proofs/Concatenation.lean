import Mathlib.Data.List.Forall2
import ModuleParts.Proofs.Body
import ModuleParts.Proofs.Children
import ModuleParts.Proofs.NodeSpans

/-! # Bodies one after another

Two bodies with one text and one comment table are taken apart together as they are apart, except
for comments inside a statement: whether a comment is inside depends on all nodes of the program.
Nodes of the other body can take such comments away, and can never add or change them.
-/
namespace ModuleParts

/-! ## Layouts that differ in their nodes -/

/-- Layouts of one text and one comment table under the same options. -/
structure Layout.SameText (a b : Layout) : Prop where
  lines : a.lines = b.lines
  comments : a.comments = b.comments
  attachComments : a.attachComments = b.attachComments

/-- The same statement at the same place, with the same comments before and after it. -/
structure PlacedStmt.AgreesAround (a b : PlacedStmt) : Prop where
  statement : a.statement = b.statement
  placement : a.metadata.placement = b.metadata.placement
  leading : a.metadata.comments.leading = b.metadata.comments.leading
  trailing : a.metadata.comments.trailing = b.metadata.comments.trailing

/-- The comments inside are those of the other statement, or there are none. -/
def PlacedStmt.InnerWithin (a b : PlacedStmt) : Prop :=
  a.metadata.comments.inner = b.metadata.comments.inner ∨ a.metadata.comments.inner = none

namespace Layout

variable {a b : Layout}

theorem SameText.location_eq (h : a.SameText b) : a.location = b.location := by
  funext span
  simp only [location, h.lines]

theorem SameText.placement_eq (h : a.SameText b) (span : Span) :
    a.placement span = b.placement span := by
  simp only [placement, h.location_eq]

theorem SameText.group_eq (h : a.SameText b) (comments : List Comment) :
    a.group comments = b.group comments := by
  have htext : a.commentText = b.commentText := by
    funext comment
    simp only [commentText, text, h.lines]
  cases comments <;> simp only [group, htext]

theorem SameText.leading_eq (h : a.SameText b) (span : Span) : a.leading span = b.leading span := by
  simp only [leading, h.comments]

theorem SameText.trailing_eq (h : a.SameText b) (span : Span) :
    a.trailing span = b.trailing span := by
  simp only [trailing, text, h.comments, h.lines]

/-- Comments before and after a lifted node do not depend on the nodes of a program. -/
theorem SameText.agreesAround (h : a.SameText b) (statement : Stmt) (own container : Span) :
    PlacedStmt.AgreesAround ⟨statement, a.liftedMetadata own container⟩
      ⟨statement, b.liftedMetadata own container⟩ where
  statement := rfl
  placement := h.placement_eq own
  leading := by
    simp only [liftedMetadata, commentsAround, h.attachComments, h.group_eq, h.leading_eq]
    split_ifs <;> rfl
  trailing := by
    simp only [liftedMetadata, commentsAround, h.attachComments, h.group_eq, h.trailing_eq]
    split_ifs <;> rfl

/-- Where the child test can only go from no to yes, inner comments can only go. -/
theorem SameText.innerWithin (h : a.SameText b) (statement : Stmt) (own container : Span)
    (hchildren : b.hasChildren container = true → a.hasChildren container = true) :
    PlacedStmt.InnerWithin ⟨statement, a.liftedMetadata own container⟩
      ⟨statement, b.liftedMetadata own container⟩ := by
  unfold PlacedStmt.InnerWithin
  simp only [inner_liftedMetadata, commentsAround, h.attachComments]
  split_ifs
  · by_cases ha : a.hasChildren container = true
    · exact .inr (by simp [inner, ha, group])
    · have hb : ¬ b.hasChildren container = true := fun hb => ha (hchildren hb)
      exact .inl (by simp only [inner, ha, hb, h.comments, h.group_eq])
  · exact .inl rfl

end Layout

/-! ## Concatenation -/

theorem Stmt.forall₂_flatMap_placed {related : PlacedStmt → PlacedStmt → Prop} {a b : Layout}
    {body : List Stmt}
    (h : ∀ item ∈ body, ∀ statement,
      related ⟨statement, a.liftedMetadata statement.span item.span⟩
        ⟨statement, b.liftedMetadata statement.span item.span⟩) :
    List.Forall₂ related (body.flatMap (placed a)) (body.flatMap (placed b)) := by
  induction body with
  | nil => exact .nil
  | cons item rest ih =>
    rw [List.forall_mem_cons] at h
    have hitem : List.Forall₂ related (item.placed a) (item.placed b) := by
      rw [placed, placed, List.forall₂_map_left_iff, List.forall₂_map_right_iff]
      exact List.forall₂_same.mpr fun statement _ => h.1 statement
    exact List.rel_append hitem (ih h.2)

namespace Program

/-- The program with another body. -/
def withBody (program : Program) (body : List Stmt) : Program := { program with body }

theorem sameText_withBody (program : Program) (attachComments : Bool) (body other : List Stmt) :
    (Layout.ofProgram (program.withBody body) attachComments).SameText
      (Layout.ofProgram (program.withBody other) attachComments) :=
  ⟨rfl, rfl, rfl⟩

/-- A part has the same comments before and after its statements as it has alone. -/
theorem agreesAround_withBody (program : Program) (attachComments : Bool)
    (whole part : List Stmt) :
    List.Forall₂ PlacedStmt.AgreesAround
      (part.flatMap (Stmt.placed (.ofProgram (program.withBody whole) attachComments)))
      (part.flatMap (Stmt.placed (.ofProgram (program.withBody part) attachComments))) := by
  apply Stmt.forall₂_flatMap_placed
  intro item _ statement
  exact (sameText_withBody program attachComments whole part).agreesAround ..

theorem nodeSpans_withBody (program : Program) (body : List Stmt) :
    (program.withBody body).nodeSpans =
      (program.hashbang.toList ++ program.directives.flatMap Directive.spans) ++ Stmt.listSpans body :=
  rfl

/-- Where a part of a body without inverted spans has a child, the whole body has one. Nodes before
the body are there in both cases, so that nothing is asked of them. -/
theorem hasChildren_withBody_mono (program : Program) {whole part : List Stmt}
    (hspans : (Stmt.listSpans part).Subperm (Stmt.listSpans whole))
    (hupright : ∀ span ∈ Stmt.listSpans whole, span.start ≤ span.stop) {span : Span}
    (hspan : span ∈ Stmt.listSpans part)
    (h : (Layout.ofProgram (program.withBody part) true).hasChildren span = true) :
    (Layout.ofProgram (program.withBody whole) true).hasChildren span = true := by
  have hpart := Layout.nodes_ofProgram_perm (program.withBody part)
  have hwhole := Layout.nodes_ofProgram_perm (program.withBody whole)
  rw [nodeSpans_withBody] at hpart hwhole
  have hnodes : (Layout.ofProgram (program.withBody part) true).nodes.Subperm
      (Layout.ofProgram (program.withBody whole) true).nodes :=
    hpart.subperm.trans (((List.subperm_append_left _).mpr hspans).trans hwhole.symm.subperm)
  apply Layout.hasChildren_mono (Layout.ofProgram_sorted _ _) (Layout.ofProgram_sorted _ _) hnodes _
    (hupright span (hspans.subset hspan)) h
  intro node hnode
  rcases List.mem_append.mp (hwhole.mem_iff.mp hnode) with hbefore | hbody
  · exact .inl (hpart.mem_iff.mpr (List.mem_append_left _ hbefore))
  · exact .inr (hupright node hbody)

/-- Inner comments of a part are at most those that it has alone. -/
theorem innerWithin_withBody (program : Program) (attachComments : Bool)
    {whole part : List Stmt}
    (hspans : (Stmt.listSpans part).Subperm (Stmt.listSpans whole))
    (hupright : ∀ span ∈ Stmt.listSpans whole, span.start ≤ span.stop) :
    List.Forall₂ PlacedStmt.InnerWithin
      (part.flatMap (Stmt.placed (.ofProgram (program.withBody whole) attachComments)))
      (part.flatMap (Stmt.placed (.ofProgram (program.withBody part) attachComments))) := by
  apply Stmt.forall₂_flatMap_placed
  intro item hitem statement
  apply (sameText_withBody program attachComments whole part).innerWithin
  intro h
  have hspan := Stmt.spans_subset_listSpans hitem item.span_mem_spans
  cases attachComments with
  | false => simp [Layout.hasChildren, Layout.ofProgram, Layout.holdsChild] at h
  | true => exact hasChildren_withBody_mono program hspans hupright hspan h

/-- Two bodies with one text and one comment table are taken apart together as they are apart, up to
inner comments; and when no span is inverted, the other body can only take inner comments away. -/
theorem decompose_append_bodies (program : Program) (options : Options)
    (first second : List Stmt) :
    ((∃ whole, (program.withBody (first ++ second)).decompose options = .ok whole) ↔
      (∃ parts, (program.withBody first).decompose options = .ok parts) ∧
        ∃ parts, (program.withBody second).decompose options = .ok parts) ∧
    (∀ error, (program.withBody (first ++ second)).decompose options = .error error ↔
      (program.withBody first).decompose options = .error error ∨
        (∃ parts, (program.withBody first).decompose options = .ok parts) ∧
          (program.withBody second).decompose options = .error error) ∧
    ∀ whole a b, (program.withBody (first ++ second)).decompose options = .ok whole →
      (program.withBody first).decompose options = .ok a →
      (program.withBody second).decompose options = .ok b →
      whole.imports = a.imports ++ b.imports ∧ whole.exports = a.exports ++ b.exports ∧
      List.Forall₂ PlacedStmt.AgreesAround whole.statements (a.statements ++ b.statements) ∧
      ((∀ span ∈ Stmt.listSpans (first ++ second), span.start ≤ span.stop) →
        List.Forall₂ PlacedStmt.InnerWithin whole.statements (a.statements ++ b.statements)) := by
  refine ⟨?_, ?_, ?_⟩
  · simp only [exists_decompose_ok_iff, withBody, List.forall_mem_append]
  · intro error
    rw [exists_decompose_ok_iff, decompose_error_iff, decompose_error_iff, decompose_error_iff]
    exact Stmt.firstOffence_append_iff
  · intro whole a b hwhole ha hb
    obtain ⟨-, rfl⟩ := decompose_ok_iff.mp hwhole
    obtain ⟨-, rfl⟩ := decompose_ok_iff.mp ha
    obtain ⟨-, rfl⟩ := decompose_ok_iff.mp hb
    refine ⟨List.flatMap_append, List.flatMap_append, ?_, ?_⟩
    · simp only [Stmt.listParts, withBody, List.flatMap_append]
      exact List.rel_append (agreesAround_withBody program _ (first ++ second) first)
        (agreesAround_withBody program _ (first ++ second) second)
    · intro hupright
      simp only [Stmt.listParts, withBody, List.flatMap_append]
      apply List.rel_append
      · apply innerWithin_withBody program _ _ hupright
        rw [Stmt.listSpans_append]
        exact (List.sublist_append_left _ _).subperm
      · apply innerWithin_withBody program _ _ hupright
        rw [Stmt.listSpans_append]
        exact (List.sublist_append_right _ _).subperm

end Program

namespace Sample

/-- The text `{/*c*/}` without its body. -/
def commented : Program where
  source := "\x7b/*c*/\x7d"
  comments := [⟨.block, ⟨1, 6⟩, none⟩]
  body := []

def emptyBlock : Stmt := .block ⟨⟨0, 7⟩, []⟩

/-- A statement that takes the place of the comment. -/
def intruder : Stmt := .debugger ⟨2, 5⟩

end Sample

/-- The comment in an empty block is gone once another body has a node there. -/
theorem Sample.decompose_append_commented :
    ∃ whole a b, (commented.withBody ([emptyBlock] ++ [intruder])).decompose {} = .ok whole ∧
      (commented.withBody [emptyBlock]).decompose {} = .ok a ∧
      (commented.withBody [intruder]).decompose {} = .ok b ∧
      (∀ span ∈ Stmt.listSpans ([emptyBlock] ++ [intruder]), span.start ≤ span.stop) ∧
      a.statements.map (fun s => s.metadata.comments.inner) = [some [⟨.block, "c", 1, 6⟩]] ∧
      whole.statements.map (fun s => s.metadata.comments.inner) = [none, none] ∧
      List.Forall₂ PlacedStmt.AgreesAround whole.statements (a.statements ++ b.statements) ∧
      List.Forall₂ PlacedStmt.InnerWithin whole.statements (a.statements ++ b.statements) := by
  have hupright : ∀ span ∈ Stmt.listSpans ([emptyBlock] ++ [intruder]), span.start ≤ span.stop := by
    simp [Stmt.listSpans, Stmt.spans, Block.spans, emptyBlock, intruder]
  have hlayout : Layout.ofProgram (commented.withBody ([emptyBlock] ++ [intruder])) true =
      ⟨.ofText commented.source.toList, commented.comments, [⟨0, 7⟩, ⟨2, 5⟩], true⟩ :=
    congrArg (Layout.mk _ _ · _) (List.mergeSort_of_pairwise (by decide))
  refine ⟨_, _, _, rfl, rfl, rfl, hupright, by decide +kernel, ?_, ?_⟩
  · change [((Layout.ofProgram _ true).metadata emptyBlock.span).comments.inner,
      ((Layout.ofProgram _ true).metadata intruder.span).comments.inner] = _
    rw [hlayout]
    decide +kernel
  have h := (Program.decompose_append_bodies commented {} [emptyBlock] [intruder]).2.2 _ _ _
    rfl rfl rfl
  exact ⟨h.2.2.1, h.2.2.2 hupright⟩

end ModuleParts
