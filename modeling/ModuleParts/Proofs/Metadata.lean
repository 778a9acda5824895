import Mathlib.Data.List.Forall2
import ModuleParts.Proofs.Body
import ModuleParts.Proofs.NodeSpans

/-! # Metadata of remaining statements

Every statement that remains of a program takes its placement from one span: that of a declarator,
of a declaration or default value under an export, or its own. The placement is whole or absent, and
absent for the one span that stands in no text. A group of comments is absent or not empty, also
where the comments of two nodes are joined, and holds comments of the program only.
-/
namespace ModuleParts

/-! ## Well-formed metadata -/

/-- The placement is that of the span in the text of the program. -/
structure Placement.Marks (placement : Placement) (program : Program) (span : Span) : Prop where
  stop_present : placement.stop.isSome = placement.start.isSome
  location_present : placement.location.isSome = placement.start.isSome
  absent_iff : placement.start = none ↔ span = .nowhere
  offsets : ∀ start stop, placement.start = some start → placement.stop = some stop →
    span = ⟨start, stop⟩
  located : ∀ start stop, placement.start = some start → placement.stop = some stop →
    placement.location = some (program.locate ⟨start, stop⟩)

/-- The comment as an answer shows it. -/
def Comment.textIn (source : String) (comment : Comment) : CommentText where
  kind := comment.kind
  value := String.ofList (comment.value source.toList)
  start := comment.span.start
  stop := comment.span.stop

/-- The group is absent, or it has comments, all of them from the table of the program. -/
def Program.IsGroup (program : Program) (group : Option (List CommentText)) : Prop :=
  ∀ texts, group = some texts → texts ≠ [] ∧
    ∀ text ∈ texts, ∃ comment ∈ program.comments, text = comment.textIn program.source

structure Metadata.IsSound (metadata : Metadata) (program : Program) (span : Span) : Prop where
  placement : metadata.placement.Marks program span
  leading : program.IsGroup metadata.comments.leading
  trailing : program.IsGroup metadata.comments.trailing
  inner : program.IsGroup metadata.comments.inner

/-! ## Selected comments are entries of the table -/

namespace Layout

variable (layout : Layout) (span : Span)

theorem leading_sublist : (layout.leading span).Sublist layout.comments := List.filter_sublist

theorem blankRun_isPrefix (text : List Char) (cursor : Nat) (comments : List Comment) :
    blankRun text cursor comments <+: comments := by
  induction comments generalizing cursor with
  | nil => exact List.nil_prefix
  | cons comment rest ih =>
    unfold blankRun
    split_ifs
    · exact (List.prefix_cons_inj comment).mpr (ih comment.span.stop)
    · exact List.nil_prefix

theorem trailing_sublist : (layout.trailing span).Sublist layout.comments := by
  have hrun := blankRun_isPrefix layout.text span.stop
    (layout.comments.dropWhile fun c => c.span.start < span.stop)
  exact hrun.sublist.trans (List.dropWhile_sublist _)

theorem inner_sublist : (layout.inner span).Sublist layout.comments := by
  unfold inner
  split_ifs
  · exact List.nil_sublist _
  · exact List.filter_sublist

end Layout

/-! ## Groups -/

namespace Program

variable (program : Program) (attachComments : Bool)

theorem isGroup_none : program.IsGroup none := nofun

theorem isGroup_group {comments : List Comment} (h : comments ⊆ program.comments) :
    program.IsGroup ((Layout.ofProgram program attachComments).group comments) := by
  intro texts htexts
  cases comments with
  | nil => cases htexts
  | cons first rest =>
    cases htexts
    refine ⟨List.cons_ne_nil _ _, ?_⟩
    intro text htext
    obtain ⟨comment, hmem, rfl⟩ := List.mem_map.mp htext
    exact ⟨comment, h hmem, rfl⟩

variable {program}

theorem IsGroup.joinGroups {first second : Option (List CommentText)} (hfirst : program.IsGroup first)
    (hsecond : program.IsGroup second) : program.IsGroup (Layout.joinGroups first second) := by
  cases first with
  | none => exact hsecond
  | some texts =>
    cases second with
    | none => exact hfirst
    | some later =>
      intro joined hjoined
      cases hjoined
      obtain ⟨hne, htexts⟩ := hfirst texts rfl
      obtain ⟨-, hlater⟩ := hsecond later rfl
      exact ⟨List.append_ne_nil_of_left_ne_nil hne _, List.forall_mem_append.mpr ⟨htexts, hlater⟩⟩

/-! ## Metadata of one span and of a lifted node -/

variable (program)

theorem marks_placement (span : Span) :
    ((Layout.ofProgram program attachComments).placement span).Marks program span := by
  by_cases h : span = .nowhere
  · simp only [Layout.placement, if_pos h]
    exact ⟨rfl, rfl, iff_of_true rfl h, nofun, nofun⟩
  · simp only [Layout.placement, if_neg h]
    refine ⟨rfl, rfl, iff_of_false nofun h, ?_, ?_⟩
    · rintro _ _ ⟨⟩ ⟨⟩
      rfl
    · rintro _ _ ⟨⟩ ⟨⟩
      rfl

theorem isGroup_commentsAround (span : Span) :
    let groups := (Layout.ofProgram program attachComments).commentsAround span
    program.IsGroup groups.leading ∧ program.IsGroup groups.trailing ∧
      program.IsGroup groups.inner := by
  intro groups
  unfold groups Layout.commentsAround
  split_ifs
  · exact ⟨program.isGroup_group _ (Layout.leading_sublist _ _).subset,
      program.isGroup_group _ (Layout.trailing_sublist _ _).subset,
      program.isGroup_group _ (Layout.inner_sublist _ _).subset⟩
  · exact ⟨program.isGroup_none, program.isGroup_none, program.isGroup_none⟩

/-- Only the leading comments of a lifted node come from two places. -/
theorem isSound_liftedMetadata (own container : Span) :
    ((Layout.ofProgram program attachComments).liftedMetadata own container).IsSound program own := by
  have hplacement := program.marks_placement attachComments own
  obtain ⟨hleading, htrailing, hinner⟩ := program.isGroup_commentsAround attachComments container
  have hown := program.isGroup_group attachComments
    (Layout.leading_sublist (Layout.ofProgram program attachComments) own).subset
  unfold Layout.liftedMetadata
  dsimp only
  split_ifs
  · exact ⟨hplacement, hleading.joinGroups hown, htrailing, hinner⟩
  · exact ⟨hplacement, hleading, htrailing, hinner⟩

end Program

/-! ## Metadata of whole programs -/

theorem Stmt.isSound_placed (program : Program) (attachComments : Bool) (item : Stmt) :
    List.Forall₂ (fun span placed => placed.metadata.IsSound program span) item.sourceSpans
      (item.placed (.ofProgram program attachComments)) := by
  rw [← map_span_payload, placed, List.forall₂_map_left_iff, List.forall₂_map_right_iff]
  exact List.forall₂_same.mpr fun statement _ =>
    program.isSound_liftedMetadata attachComments statement.span item.span

/-- The statements that remain of a program have, in their order, the spans that place them, and
sound metadata for these spans: nothing is asked of the spans, of the comments or of the options. -/
theorem Program.metadata_isSound {program : Program} {options : Options} {whole : Decomposition}
    (h : program.decompose options = .ok whole) :
    List.Forall₂ (fun span placed => placed.metadata.IsSound program span)
      (program.body.flatMap Stmt.sourceSpans) whole.statements := by
  obtain ⟨-, rfl⟩ := decompose_ok_iff.mp h
  have hbody : List.Forall₂ Eq program.body program.body := List.forall₂_same.mpr fun _ _ => rfl
  apply List.rel_flatMap hbody
  rintro item _ rfl
  exact item.isSound_placed program options.attachComments

namespace Sample

/-- An exported declaration with a declarator that stands in no text. -/
def unplaced : Program where
  source := "/*a*/export let x, y;//z"
  comments := [⟨.block, ⟨0, 5⟩, some 5⟩, ⟨.line, ⟨21, 24⟩, none⟩]
  body := [.exportNamed ⟨5, 21⟩ (some (.variable ⟨⟨12, 21⟩, .let,
    [⟨⟨16, 17⟩, .identifier ⟨⟨16, 17⟩, "x"⟩ .bare, none, false⟩,
      ⟨.nowhere, .identifier ⟨.nowhere, "y"⟩ .bare, none, false⟩], false⟩)) [] none false]

end Sample

theorem Sample.metadata_unplaced :
    ∃ whole, unplaced.decompose {} = .ok whole ∧
      whole.statements.map (fun s => s.metadata.placement) =
        [⟨some 16, some 17, some ⟨⟨1, 16⟩, ⟨1, 17⟩⟩⟩, {}] ∧
      whole.statements.map (fun s => (s.metadata.comments.leading, s.metadata.comments.trailing)) =
        [(some [⟨.block, "a", 0, 5⟩], some [⟨.line, "z", 21, 24⟩]),
          (some [⟨.block, "a", 0, 5⟩], some [⟨.line, "z", 21, 24⟩])] ∧
      List.Forall₂ (fun span placed => placed.metadata.IsSound unplaced span)
        [⟨16, 17⟩, .nowhere] whole.statements :=
  ⟨_, rfl, by decide +kernel, by decide +kernel, Program.metadata_isSound rfl⟩

end ModuleParts
