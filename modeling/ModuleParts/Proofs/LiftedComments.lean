import Mathlib.Data.List.Nodup
import ModuleParts.Proofs.CommentOrder

/-! # Comments of nodes lifted out of an item

A declarator or a declaration that is lifted out of an item takes the comments around the item along,
and the comments that lead the node itself come after those that lead the item. Declarators that start
at different places therefore share what stands around their declaration, and none has what leads
another. A node between the item and the lifted one has no say: under an export, the comments that lead a
declaration are kept where the declaration itself is lifted, and lost where its declarators are.
-/
namespace ModuleParts

/-- The comments that lead the token at the offset and end before it. -/
def Program.leadingAt (program : Program) (offset : Nat) : List Comment :=
  program.comments.filter fun comment =>
    comment.attachedTo = some offset ∧ comment.span.stop ≤ offset

/-- The statements that remain of an item which comes after the items `before`: those behind the
statements of these items, as many as remain of it. -/
def Decomposition.statementsOf (whole : Decomposition) (before : List Stmt) (item : Stmt) :
    List PlacedStmt :=
  (whole.statements.drop (before.flatMap Stmt.payload).length).take item.payload.length

/-- The first span has positive length, lies in the second and starts after it does. -/
def Span.StartsInside (inside outside : Span) : Prop :=
  inside.Within outside ∧ outside.start < inside.start

/-- The variable declaration that an item is or exports. -/
def Stmt.variables? : Stmt → Option VariableDecl
  | .decl (.variable d) => some d
  | .exportNamed _ (some (.variable d)) _ _ _ => some d
  | _ => none

namespace Span

variable {inside outside : Span}

theorem Within.outside_ne_nowhere (h : inside.Within outside) : outside ≠ .nowhere := by
  rintro rfl
  exact absurd (Nat.lt_of_lt_of_le h.2.1 h.2.2) (Nat.not_lt_zero _)

theorem StartsInside.inside_ne_nowhere (h : inside.StartsInside outside) : inside ≠ .nowhere := by
  rintro rfl
  exact absurd h.2 (Nat.not_lt_zero _)

end Span

/-! ## The statements of one item -/

theorem Stmt.length_flatMap_placed (layout : Layout) (body : List Stmt) :
    (body.flatMap (placed layout)).length = (body.flatMap payload).length := by
  simp [List.length_flatMap, placed]

theorem Program.statementsOf_eq {program : Program} {options : Options} {whole : Decomposition}
    {before after : List Stmt} {item : Stmt} (hbody : program.body = before ++ item :: after)
    (h : program.decompose options = .ok whole) :
    whole.statementsOf before item = item.placed (.ofProgram program options.attachComments) := by
  obtain ⟨-, rfl⟩ := decompose_ok_iff.mp h
  set layout := Layout.ofProgram program options.attachComments
  have hstatements : (Stmt.listParts layout program.body).statements =
      before.flatMap (Stmt.placed layout) ++
        (item.placed layout ++ after.flatMap (Stmt.placed layout)) := by
    simp [Stmt.listParts, hbody]
  have hlength : item.payload.length = (item.placed layout).length := by simp [Stmt.placed]
  rw [Decomposition.statementsOf, hstatements, ← Stmt.length_flatMap_placed layout, List.drop_left,
    hlength, List.take_left]

theorem Stmt.payload_of_variables? {item : Stmt} {decl : VariableDecl}
    (h : item.variables? = some decl) :
    item.payload =
      decl.declarators.map fun declarator => .decl (.variable (decl.single declarator)) := by
  revert h
  fun_cases variables? item with
  | case1 d =>
    rintro ⟨⟩
    rfl
  | case2 span d specifiers source typeOnly =>
    rintro ⟨⟩
    rfl
  | case3 => nofun

theorem Stmt.placed_of_variables? {item : Stmt} {decl : VariableDecl}
    (h : item.variables? = some decl) (layout : Layout) :
    item.placed layout = decl.declarators.map fun declarator =>
      ⟨.decl (.variable (decl.single declarator)),
        layout.liftedMetadata declarator.span item.span⟩ := by
  rw [placed, payload_of_variables? h, List.map_map]
  rfl

theorem Decl.span_of_mem_pieces {d : Decl} (h : ∀ v, d ≠ .variable v) {statement : Stmt}
    (hmem : statement ∈ d.pieces) : statement.span = d.span := by
  cases d with
  | «variable» v => exact (h v rfl).elim
  | _ =>
    rw [List.mem_singleton.mp hmem]
    rfl

/-! ## The groups of a lifted node -/

namespace Layout

variable {program : Program} {container : Span}

theorem leading_ofProgram (program : Program) (attachComments : Bool) (span : Span) :
    (ofProgram program attachComments).leading span = program.leadingAt span.start := by
  apply List.filter_congr
  intro comment _
  rw [Bool.eq_iff_iff]
  simp

/-- The comments that lead the container, and then those that lead the node, unless it has no place of
its own or starts with the container. -/
theorem leading_liftedMetadata (hcontainer : container ≠ .nowhere) (own : Span) :
    ((ofProgram program true).liftedMetadata own container).comments.leading.getD [] =
      (program.leadingAt container.start ++
        if own ≠ .nowhere ∧ own.start ≠ container.start then program.leadingAt own.start else []).map
          (Comment.textIn program.source) := by
  have hattach : (ofProgram program true).attachComments = true := rfl
  have htext : (ofProgram program true).commentText = Comment.textIn program.source := rfl
  by_cases hlifted : own ≠ .nowhere ∧ own.start ≠ container.start
  · simp [liftedMetadata, commentsAround, hattach, hcontainer, hlifted, getD_joinGroups, getD_group,
      leading_ofProgram, htext]
  · rw [not_and_or, not_not, not_not] at hlifted
    rcases hlifted with rfl | hstart
    · simp [liftedMetadata, commentsAround, hattach, hcontainer, getD_group, leading_ofProgram, htext]
    · simp [liftedMetadata, commentsAround, hattach, hcontainer, hstart, getD_group,
        leading_ofProgram, htext]

/-- The comments that trail the container trail the node. -/
theorem getD_trailing_liftedMetadata (hcontainer : container ≠ .nowhere) (own : Span) :
    ((ofProgram program true).liftedMetadata own container).comments.trailing.getD [] =
      ((ofProgram program true).trailing container).map (Comment.textIn program.source) := by
  have hattach : (ofProgram program true).attachComments = true := rfl
  have htext : (ofProgram program true).commentText = Comment.textIn program.source := rfl
  rw [trailing_liftedMetadata]
  simp [commentsAround, hattach, hcontainer, getD_group, htext]

theorem inner_liftedMetadata_of_hasChildren {layout : Layout}
    (hchildren : layout.hasChildren container = true) (own : Span) :
    (layout.liftedMetadata own container).comments.inner = none := by
  rw [inner_liftedMetadata, commentsAround]
  split_ifs
  · simp [inner, hchildren, group]
  · rfl

end Layout

/-! ## Which comment a text stands for -/

theorem Comment.nodup_starts {comments : List Comment}
    (hsorted : comments.Pairwise fun a b => a.span.start ≤ b.span.start)
    (hdisjoint : comments.Pairwise fun a b =>
      a.span.stop ≤ b.span.start ∨ b.span.stop ≤ a.span.start)
    (hpositive : ∀ comment ∈ comments, comment.span.start < comment.span.stop) :
    (comments.map fun comment => comment.span.start).Nodup := by
  apply List.pairwise_map.mpr
  apply (pairwise_stop_le_start hsorted hdisjoint hpositive).imp_of_mem
  intro a b ha _ hapart
  have := hpositive a ha
  omega

namespace Program

variable {program : Program}

theorem of_mem_leadingAt {offset : Nat} {comment : Comment} (h : comment ∈ program.leadingAt offset) :
    comment ∈ program.comments ∧ comment.attachedTo = some offset ∧ comment.span.stop ≤ offset := by
  simpa [leadingAt] using h

theorem leadingAt_subset (program : Program) (offset : Nat) :
    program.leadingAt offset ⊆ program.comments := List.filter_subset_self _

theorem eq_of_mem_leadingAt {a b : Nat} {comment : Comment} (ha : comment ∈ program.leadingAt a)
    (hb : comment ∈ program.leadingAt b) : a = b := by
  have hattached := (of_mem_leadingAt ha).2.1.symm.trans (of_mem_leadingAt hb).2.1
  exact Option.some.inj hattached

/-- Where comments start at different offsets, the text of a comment is among the texts of others only if
it is one of them. -/
theorem mem_of_textIn_mem (hstarts : (program.comments.map fun comment => comment.span.start).Nodup)
    {comments : List Comment} (hsubset : comments ⊆ program.comments) {comment : Comment}
    (hmem : comment ∈ program.comments)
    (h : comment.textIn program.source ∈ comments.map (Comment.textIn program.source)) :
    comment ∈ comments := by
  obtain ⟨other, hother, htext⟩ := List.mem_map.mp h
  have hstart : other.span.start = comment.span.start := congrArg CommentText.start htext
  rwa [← List.inj_on_of_nodup_map hstarts (hsubset hother) hmem hstart]

end Program

/-! ## Declarators of one declaration -/

theorem VariableDecl.start_ne_of_getElem? (decl : VariableDecl)
    (hapart : (decl.declarators.map fun declarator => declarator.span.start).Nodup) {i j : Nat}
    (hij : i ≠ j) {first second : Declarator} (hfirst : decl.declarators[i]? = some first)
    (hsecond : decl.declarators[j]? = some second) : first.span.start ≠ second.span.start := by
  intro heq
  obtain ⟨hlength, -⟩ := List.getElem?_eq_some_iff.mp hfirst
  apply hij
  rw [← List.getElem?_inj (by simpa using hlength) hapart, List.getElem?_map, List.getElem?_map,
    hfirst, hsecond, Option.map_some, Option.map_some, heq]

namespace Program

variable {program : Program} {item : Stmt} {decl : VariableDecl} {declarator other : Declarator}

/-- A declarator that starts inside its item makes the item a node with children. -/
theorem hasChildren_of_declarator (hmem : item ∈ program.body) (hitem : item.variables? = some decl)
    (hdeclarator : declarator ∈ decl.declarators)
    (hinside : declarator.span.StartsInside item.span) :
    (Layout.ofProgram program true).hasChildren item.span = true := by
  have hstatement : .decl (.variable (decl.single declarator)) ∈ item.payload := by
    rw [Stmt.payload_of_variables? hitem]
    exact List.mem_map_of_mem hdeclarator
  have hnode : declarator.span ∈ (Layout.ofProgram program true).nodes :=
    Layout.mem_nodes_ofProgram
      (Stmt.spans_subset_listSpans hmem (Stmt.span_mem_spans_of_mem_payload hstatement))
  exact Layout.hasChildren_of_within (Layout.ofProgram_sorted program true) hnode hinside.1
    (Nat.ne_of_gt hinside.2)

theorem leading_of_declarator (hinside : declarator.span.StartsInside item.span) :
    ((Layout.ofProgram program true).liftedMetadata declarator.span
        item.span).comments.leading.getD [] =
      (program.leadingAt item.span.start ++ program.leadingAt declarator.span.start).map
        (Comment.textIn program.source) := by
  rw [Layout.leading_liftedMetadata hinside.1.outside_ne_nowhere,
    if_pos ⟨hinside.inside_ne_nowhere, Nat.ne_of_gt hinside.2⟩]

/-- What leads one declarator is in no group of another. -/
theorem textIn_not_mem_all
    (hsorted : program.comments.Pairwise fun a b => a.span.start ≤ b.span.start)
    (hstarts : (program.comments.map fun comment => comment.span.start).Nodup)
    (hpositive : ∀ comment ∈ program.comments, comment.span.start < comment.span.stop)
    (hchildren : (Layout.ofProgram program true).hasChildren item.span = true)
    (hinside : declarator.span.StartsInside item.span) (hother : other.span.StartsInside item.span)
    (hapart : declarator.span.start ≠ other.span.start)
    {comment : Comment} (hcomment : comment ∈ program.leadingAt declarator.span.start) :
    comment.textIn program.source ∉
      ((Layout.ofProgram program true).liftedMetadata other.span item.span).comments.all := by
  set layout := Layout.ofProgram program true
  obtain ⟨htable, -, hends⟩ := of_mem_leadingAt hcomment
  have hsubset : program.leadingAt item.span.start ++ program.leadingAt other.span.start ++
      layout.trailing item.span ⊆ program.comments :=
    List.append_subset.mpr ⟨List.append_subset.mpr ⟨leadingAt_subset _ _, leadingAt_subset _ _⟩,
      (layout.trailing_sublist item.span).subset⟩
  rw [Layout.all_liftedMetadata rfl hother.inside_ne_nowhere hother.1.outside_ne_nowhere
    (Nat.ne_of_gt hother.2) hchildren, Layout.leading_ofProgram, Layout.leading_ofProgram]
  intro htext
  have hmem := mem_of_textIn_mem hstarts hsubset htable htext
  rw [List.mem_append, List.mem_append] at hmem
  rcases hmem with (hitem | hsibling) | htrailing
  · exact Nat.ne_of_gt hinside.2 (eq_of_mem_leadingAt hcomment hitem)
  · exact hapart (eq_of_mem_leadingAt hcomment hsibling)
  · -- it ends before the declarator starts, and the comments after the item start behind that
    have hstart := Layout.of_mem_trailing hsorted htrailing
    have hlength := hpositive comment htable
    obtain ⟨⟨-, hwidth, hstop⟩, -⟩ := hinside
    omega

end Program

/-- The statements split from one variable declaration, bare or exported, share the comments that trail the
item and have none inside. What leads the item leads each of them, and then what leads its own declarator,
which is in no group of the others. -/
theorem Program.split_comments_apart {program : Program} {before after : List Stmt} {item : Stmt}
    {decl : VariableDecl} {whole : Decomposition}
    (hsorted : program.comments.Pairwise fun a b => a.span.start ≤ b.span.start)
    (hdisjoint : program.comments.Pairwise fun a b =>
      a.span.stop ≤ b.span.start ∨ b.span.stop ≤ a.span.start)
    (hpositive : ∀ comment ∈ program.comments, comment.span.start < comment.span.stop)
    (hbody : program.body = before ++ item :: after) (hitem : item.variables? = some decl)
    (hinside : ∀ declarator ∈ decl.declarators, declarator.span.StartsInside item.span)
    (hapart : (decl.declarators.map fun declarator => declarator.span.start).Nodup)
    (h : program.decompose ⟨true⟩ = .ok whole) :
    let split := whole.statementsOf before item
    split.map PlacedStmt.statement = decl.split.map (fun single => .decl (.variable single)) ∧
      (∀ a ∈ split, ∀ b ∈ split, a.metadata.comments.trailing = b.metadata.comments.trailing) ∧
      (∀ placed ∈ split, placed.metadata.comments.trailing.getD [] =
        ((Layout.ofProgram program true).trailing item.span).map (Comment.textIn program.source)) ∧
      (∀ placed ∈ split, placed.metadata.comments.inner = none) ∧
      split.map (fun placed => placed.metadata.comments.leading.getD []) =
        decl.declarators.map (fun declarator =>
          (program.leadingAt item.span.start ++ program.leadingAt declarator.span.start).map
            (Comment.textIn program.source)) ∧
      ∀ (i j : Nat) (declarator : Declarator) (placed : PlacedStmt), i ≠ j →
        decl.declarators[i]? = some declarator → split[j]? = some placed →
          ∀ comment ∈ program.leadingAt declarator.span.start,
            comment.textIn program.source ∉ placed.metadata.comments.all := by
  intro split
  set layout := Layout.ofProgram program true
  have hmem : item ∈ program.body := by simp [hbody]
  have hsplit : split = decl.declarators.map fun declarator =>
      ⟨.decl (.variable (decl.single declarator)),
        layout.liftedMetadata declarator.span item.span⟩ := by
    rw [← Stmt.placed_of_variables? hitem layout]
    exact statementsOf_eq hbody h
  rw [hsplit]
  refine ⟨?_, ?_, ?_, ?_, ?_, ?_⟩
  · rw [VariableDecl.split, List.map_map, List.map_map]
    rfl
  · intro a ha b hb
    obtain ⟨first, -, rfl⟩ := List.mem_map.mp ha
    obtain ⟨second, -, rfl⟩ := List.mem_map.mp hb
    rw [Layout.trailing_liftedMetadata, Layout.trailing_liftedMetadata]
  · intro placed hplaced
    obtain ⟨declarator, hdeclarator, rfl⟩ := List.mem_map.mp hplaced
    exact Layout.getD_trailing_liftedMetadata (hinside declarator hdeclarator).1.outside_ne_nowhere _
  · intro placed hplaced
    obtain ⟨declarator, hdeclarator, rfl⟩ := List.mem_map.mp hplaced
    exact Layout.inner_liftedMetadata_of_hasChildren
      (hasChildren_of_declarator hmem hitem hdeclarator (hinside declarator hdeclarator)) _
  · rw [List.map_map]
    exact List.map_congr_left fun declarator hdeclarator =>
      leading_of_declarator (hinside declarator hdeclarator)
  · intro i j declarator placed hij hdeclarator hplaced comment hcomment
    rw [List.getElem?_map, Option.map_eq_some_iff] at hplaced
    obtain ⟨other, hother, rfl⟩ := hplaced
    have hdeclared := List.mem_of_getElem? hdeclarator
    have hstart := decl.start_ne_of_getElem? hapart hij hdeclarator hother
    exact textIn_not_mem_all hsorted (Comment.nodup_starts hsorted hdisjoint hpositive) hpositive
      (hasChildren_of_declarator hmem hitem hdeclared (hinside declarator hdeclared))
      (hinside declarator hdeclared) (hinside other (List.mem_of_getElem? hother)) hstart hcomment

namespace Sample

/-- The declaration of `/*a*/export /*b*/let /*c*/x, /*d*/y;//e`. -/
def ledVariables : VariableDecl where
  span := ⟨17, 36⟩
  kind := .let
  declarators := [⟨⟨26, 27⟩, .identifier ⟨⟨26, 27⟩, "x"⟩ .bare, none, false⟩,
    ⟨⟨34, 35⟩, .identifier ⟨⟨34, 35⟩, "y"⟩ .bare, none, false⟩]
  declare := false

def ledExport : Stmt := .exportNamed ⟨5, 36⟩ (some (.variable ledVariables)) [] none false

/-- An exported declaration with comments before every part of it and after it. -/
def led : Program where
  source := "/*a*/export /*b*/let /*c*/x, /*d*/y;//e"
  comments := [⟨.block, ⟨0, 5⟩, some 5⟩, ⟨.block, ⟨12, 17⟩, some 17⟩, ⟨.block, ⟨21, 26⟩, some 26⟩,
    ⟨.block, ⟨29, 34⟩, some 34⟩, ⟨.line, ⟨36, 39⟩, none⟩]
  body := [ledExport]

end Sample

/-- Each declarator has its own comment behind that of the export, and the first one has not that of the
second. -/
theorem Sample.split_comments_led :
    ∃ whole, led.decompose ⟨true⟩ = .ok whole ∧
      (whole.statementsOf [] ledExport).map (fun placed => placed.metadata.comments.leading.getD []) =
        [[⟨.block, "a", 0, 5⟩, ⟨.block, "c", 21, 26⟩], [⟨.block, "a", 0, 5⟩, ⟨.block, "d", 29, 34⟩]] ∧
      (∀ placed ∈ whole.statementsOf [] ledExport,
        placed.metadata.comments.trailing.getD [] = [⟨.line, "e", 36, 39⟩] ∧
          placed.metadata.comments.inner = none) ∧
      ∀ placed, (whole.statementsOf [] ledExport)[0]? = some placed →
        ⟨.block, "d", 29, 34⟩ ∉ placed.metadata.comments.all := by
  obtain ⟨whole, h⟩ : ∃ whole, led.decompose ⟨true⟩ = .ok whole := ⟨_, rfl⟩
  have hinside : ∀ declarator ∈ ledVariables.declarators,
      declarator.span.StartsInside ledExport.span := by
    simp [ledVariables, ledExport, Stmt.span, Span.StartsInside, Span.Within]
  obtain ⟨-, -, htrailing, hinner, hleading, hsibling⟩ := Program.split_comments_apart (by decide)
    (by decide) (by decide) (List.nil_append _).symm rfl hinside (by decide) h
  refine ⟨whole, h, ?_, ?_, ?_⟩
  · rw [hleading]
    decide +kernel
  · intro placed hplaced
    refine ⟨?_, hinner placed hplaced⟩
    rw [htrailing placed hplaced]
    decide +kernel
  · intro placed hplaced
    exact hsibling 1 0 _ placed (by decide) rfl hplaced ⟨.block, ⟨29, 34⟩, some 34⟩ (by decide)

/-! ## Declarations under an export -/

namespace Program

variable {program : Program} {own container : Span} {comment : Comment}

theorem textIn_mem_leading_of_container (hcontainer : container ≠ .nowhere) (own : Span)
    (h : comment ∈ program.leadingAt container.start) :
    comment.textIn program.source ∈
      ((Layout.ofProgram program true).liftedMetadata own container).comments.leading.getD [] := by
  rw [Layout.leading_liftedMetadata hcontainer]
  exact List.mem_map_of_mem (List.mem_append_left _ h)

/-- A node that starts where its container does needs no comments of its own: they lead the container. -/
theorem textIn_mem_leading_of_own (hcontainer : container ≠ .nowhere)
    (hle : container.start ≤ own.start) (h : comment ∈ program.leadingAt own.start) :
    comment.textIn program.source ∈
      ((Layout.ofProgram program true).liftedMetadata own container).comments.leading.getD [] := by
  by_cases hstart : own.start = container.start
  · exact textIn_mem_leading_of_container hcontainer own (hstart ▸ h)
  · have hown : own ≠ .nowhere := by
      rintro rfl
      exact hstart (Nat.le_antisymm (Nat.zero_le _) hle)
    rw [Layout.leading_liftedMetadata hcontainer, if_pos ⟨hown, hstart⟩]
    exact List.mem_map_of_mem (List.mem_append_right _ h)

/-- Nothing else gets to the leading comments. -/
theorem mem_leadingAt_of_textIn_mem_leading
    (hstarts : (program.comments.map fun comment => comment.span.start).Nodup)
    (hcontainer : container ≠ .nowhere) (hmem : comment ∈ program.comments)
    (h : comment.textIn program.source ∈
      ((Layout.ofProgram program true).liftedMetadata own container).comments.leading.getD []) :
    comment ∈ program.leadingAt container.start ∨ comment ∈ program.leadingAt own.start := by
  rw [Layout.leading_liftedMetadata hcontainer] at h
  rw [← List.mem_append]
  split_ifs at h with hlifted
  · exact mem_of_textIn_mem hstarts
      (List.append_subset.mpr ⟨leadingAt_subset _ _, leadingAt_subset _ _⟩) hmem h
  · rw [List.append_nil] at h
    exact List.mem_append_left _ (mem_of_textIn_mem hstarts (leadingAt_subset _ _) hmem h)

end Program

/-- Every statement that remains of an exported declaration has the comments that lead the export. It has
those that lead the declaration where the declaration is no variable declaration, and otherwise just where
the declaration starts with the export or with the declarator: comments between `export` and the keyword of
a variable declaration are lost. -/
theorem Program.exported_leading_kept {program : Program} {before after : List Stmt} {span : Span}
    {d : Decl} {specifiers : List ExportSpecifier} {source : Option StringLiteral} {typeOnly : Bool}
    {whole : Decomposition}
    (hbody : program.body =
      before ++ .exportNamed span (some d) specifiers source typeOnly :: after)
    (hwithin : d.span.Within span) (h : program.decompose ⟨true⟩ = .ok whole) :
    let own := whole.statementsOf before (.exportNamed span (some d) specifiers source typeOnly)
    own.map PlacedStmt.statement = d.pieces ∧ ∀ placed ∈ own,
      let leading := placed.metadata.comments.leading.getD []
      (∀ comment ∈ program.leadingAt span.start, comment.textIn program.source ∈ leading) ∧
        ((∀ v, d ≠ .variable v) ∨ d.span.start = span.start ∨
            d.span.start = placed.statement.span.start →
          ∀ comment ∈ program.leadingAt d.span.start, comment.textIn program.source ∈ leading) ∧
        ((program.comments.map fun comment => comment.span.start).Nodup →
          d.span.start ≠ span.start → d.span.start ≠ placed.statement.span.start →
            ∀ comment ∈ program.leadingAt d.span.start, comment.textIn program.source ∉ leading) := by
  intro own
  have hplaced : own = d.pieces.map fun statement =>
      ⟨statement, (Layout.ofProgram program true).liftedMetadata statement.span span⟩ :=
    statementsOf_eq hbody h
  have hspan := hwithin.outside_ne_nowhere
  rw [hplaced]
  refine ⟨by simp [Function.comp_def], ?_⟩
  intro placed hmem leading
  obtain ⟨statement, hstatement, rfl⟩ := List.mem_map.mp hmem
  have hown (hstart : d.span.start = statement.span.start) :
      ∀ comment ∈ program.leadingAt d.span.start, comment.textIn program.source ∈ leading := by
    intro comment hcomment
    rw [hstart] at hcomment
    exact textIn_mem_leading_of_own hspan (hstart ▸ hwithin.1) hcomment
  refine ⟨fun comment => textIn_mem_leading_of_container hspan _, ?_, ?_⟩
  · rintro (hkind | hstart | hstart)
    · exact hown (congrArg Span.start (Decl.span_of_mem_pieces hkind hstatement).symm)
    · rw [hstart]
      exact fun comment => textIn_mem_leading_of_container hspan _
    · exact hown hstart
  · intro hstarts hexport hdeclarator comment hcomment htext
    have htable := (of_mem_leadingAt hcomment).1
    rcases mem_leadingAt_of_textIn_mem_leading hstarts hspan htable htext with hcase | hcase
    · exact hexport (eq_of_mem_leadingAt hcomment hcase)
    · exact hdeclarator (eq_of_mem_leadingAt hcomment hcase)

namespace Sample

/-- The declaration of `/*a*/export /*b*/interface I {}`. -/
def ledInterface : Decl := .interface ⟨⟨17, 31⟩, ⟨⟨27, 28⟩, "I"⟩, ⟨29, 31⟩, [], false⟩

def ledInterfaceExport : Stmt := .exportNamed ⟨5, 31⟩ (some ledInterface) [] none false

/-- An exported interface with a comment before each keyword. -/
def ledTypes : Program where
  source := "/*a*/export /*b*/interface I \x7b\x7d"
  comments := [⟨.block, ⟨0, 5⟩, some 5⟩, ⟨.block, ⟨12, 17⟩, some 17⟩]
  body := [ledInterfaceExport]

end Sample

theorem Sample.exported_leading_ledTypes :
    ledInterface.span.Within ⟨5, 31⟩ ∧ ∃ whole, ledTypes.decompose ⟨true⟩ = .ok whole ∧
      (whole.statementsOf [] ledInterfaceExport).map PlacedStmt.statement = [.decl ledInterface] ∧
      ∀ placed ∈ whole.statementsOf [] ledInterfaceExport,
        ⟨.block, "a", 0, 5⟩ ∈ placed.metadata.comments.leading.getD [] ∧
          ⟨.block, "b", 12, 17⟩ ∈ placed.metadata.comments.leading.getD [] := by
  have hwithin : ledInterface.span.Within ⟨5, 31⟩ := by
    simp [ledInterface, Decl.span, Span.Within]
  obtain ⟨whole, h⟩ : ∃ whole, ledTypes.decompose ⟨true⟩ = .ok whole := ⟨_, rfl⟩
  have hkind : ∀ v, ledInterface ≠ .variable v := by
    intro v heq
    cases heq
  obtain ⟨hstatements, hleading⟩ :=
    Program.exported_leading_kept (List.nil_append _).symm hwithin h
  refine ⟨hwithin, whole, h, hstatements, fun placed hplaced => ?_⟩
  obtain ⟨hexport, hdeclaration, -⟩ := hleading placed hplaced
  exact ⟨hexport ⟨.block, ⟨0, 5⟩, some 5⟩ (by decide),
    hdeclaration (.inl hkind) ⟨.block, ⟨12, 17⟩, some 17⟩ (by decide)⟩

/-- A comment that leads an exported variable declaration is with none of its statements, although it ends
before the declaration, in an export that holds it. -/
theorem Sample.exported_leading_lost :
    ledVariables.span.Within ledExport.span ∧
      ⟨.block, ⟨12, 17⟩, some 17⟩ ∈ led.leadingAt ledVariables.span.start ∧
      ∃ whole, led.decompose ⟨true⟩ = .ok whole ∧ whole.statements.length = 2 ∧
        ∀ placed ∈ whole.statements,
          ⟨.block, "b", 12, 17⟩ ∉ placed.metadata.comments.leading.getD [] := by
  refine ⟨by simp [ledVariables, ledExport, Stmt.span, Span.Within], by decide, _, rfl, rfl, ?_⟩
  decide +kernel

end ModuleParts
