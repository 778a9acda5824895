import ModuleParts.Proofs.Concatenation
import ModuleParts.Proofs.Positions
import ModuleParts.Proofs.Relocation.Item

/-! # Programs after a text

A text that ends with a line feed is put before a program, and every offset of the program grows by
the bytes of that text. Then decomposition gives what it gave before, moved by the same number of
bytes and by the line breaks of the text. Spans may be inverted, may cut a character and may lie
past the end; only the span of a node that stands in no text would be taken for another one once
moved.
-/
namespace ModuleParts

/-- How far a text moves what comes after it. -/
structure Displacement where
  bytes : Nat
  lines : Nat
deriving DecidableEq, Repr, Inhabited

namespace Displacement

def ofText (text : List Char) : Displacement := ⟨Text.byteLength text, Text.lineBreaks text⟩

def offset (d : Displacement) (offset : Nat) : Nat := offset + d.bytes

end Displacement

variable (d : Displacement)

/-! ## Displaced programs and answers -/

def Comment.displace (comment : Comment) : Comment where
  kind := comment.kind
  span := comment.span.relocate d.offset
  attachedTo := comment.attachedTo.map d.offset

/-- The program after a text. -/
def Program.precededBy (program : Program) (text : String) : Program :=
  let d := Displacement.ofText text.toList
  { span := program.span.relocate d.offset
    sourceType := program.sourceType
    source := text ++ program.source
    comments := program.comments.map (Comment.displace d)
    hashbang := program.hashbang.map (Span.relocate d.offset)
    directives := program.directives.map (Directive.relocate d.offset)
    body := program.body.map (Stmt.relocate d.offset) }

def Location.displace (location : Location) : Location :=
  ⟨location.start.below d.lines, location.stop.below d.lines⟩

def Specifier.displace (record : Specifier) : Specifier :=
  { record with location := record.location.displace d }

def CommentText.displace (comment : CommentText) : CommentText :=
  { comment with start := d.offset comment.start, stop := d.offset comment.stop }

def Placement.displace (placement : Placement) : Placement where
  start := placement.start.map d.offset
  stop := placement.stop.map d.offset
  location := placement.location.map (Location.displace d)

def CommentGroups.displace (groups : CommentGroups) : CommentGroups where
  leading := groups.leading.map (List.map (CommentText.displace d))
  trailing := groups.trailing.map (List.map (CommentText.displace d))
  inner := groups.inner.map (List.map (CommentText.displace d))

def Metadata.displace (metadata : Metadata) : Metadata :=
  ⟨metadata.placement.displace d, metadata.comments.displace d⟩

def PlacedStmt.displace (placed : PlacedStmt) : PlacedStmt :=
  ⟨placed.statement.relocate d.offset, placed.metadata.displace d⟩

def Decomposition.displace (parts : Decomposition) : Decomposition where
  imports := parts.imports.map (Specifier.displace d)
  exports := parts.exports.map (Specifier.displace d)
  statements := parts.statements.map (PlacedStmt.displace d)

/-! ## Displaced layouts -/

variable {d}

/-- The second layout is the first one after a text that moves it by `d`. -/
structure Layout.Displaced (d : Displacement) (layout moved : Layout) : Prop where
  point : ∀ offset, moved.lines.point (d.offset offset) = (layout.lines.point offset).below d.lines
  slice : ∀ start stop,
    Text.slice moved.text (d.offset start) (d.offset stop) = Text.slice layout.text start stop
  comments : moved.comments = layout.comments.map (Comment.displace d)
  nodes : moved.nodes = layout.nodes.map (Span.relocate d.offset)
  attachComments : moved.attachComments = layout.attachComments
  positive : 0 < d.bytes

namespace Span

theorem relocate_offset_ne_nowhere (h : 0 < d.bytes) (span : Span) :
    span.relocate d.offset ≠ nowhere := by
  intro heq
  have hstart : span.start + d.bytes = 0 := congrArg Span.start heq
  omega

theorem relocate_offset_inj {a b : Span} : a.relocate d.offset = b.relocate d.offset ↔ a = b := by
  rcases a with ⟨start, stop⟩
  rcases b with ⟨start', stop'⟩
  simp [relocate, Displacement.offset]

theorem le_relocate_offset (a b : Span) :
    (a.relocate d.offset).le (b.relocate d.offset) = a.le b := by
  rw [Bool.eq_iff_iff, le_iff, le_iff]
  simp [relocate, Displacement.offset]

end Span

namespace Layout

variable {layout moved : Layout}

theorem holdsChild_relocate (span : Span) (ownSeen : Bool) (nodes : List Span) :
    holdsChild (span.relocate d.offset) ownSeen (nodes.map (Span.relocate d.offset)) =
      holdsChild span ownSeen nodes := by
  induction nodes generalizing ownSeen with
  | nil => rfl
  | cons node rest ih =>
    have hstart : (node.relocate d.offset).start < (span.relocate d.offset).stop ↔
        node.start < span.stop := Nat.add_lt_add_iff_right
    have hstop : (span.relocate d.offset).stop < (node.relocate d.offset).stop ↔
        span.stop < node.stop := Nat.add_lt_add_iff_right
    have hown : (node.relocate d.offset == span.relocate d.offset) = (node == span) := by
      rw [Bool.eq_iff_iff, beq_iff_eq, beq_iff_eq, Span.relocate_offset_inj]
    simp only [List.map_cons, holdsChild, hstart, hstop, hown, ih]

theorem blankRun_displace {text moved : List Char}
    (h : ∀ start stop,
      Text.slice moved (d.offset start) (d.offset stop) = Text.slice text start stop)
    (cursor : Nat) (comments : List Comment) :
    blankRun moved (d.offset cursor) (comments.map (Comment.displace d)) =
      (blankRun text cursor comments).map (Comment.displace d) := by
  induction comments generalizing cursor with
  | nil => rfl
  | cons comment rest ih =>
    have hgap : Text.slice moved (d.offset cursor) (comment.displace d).span.start =
        Text.slice text cursor comment.span.start := h _ _
    have hrest := ih comment.span.stop
    simp only [List.map_cons, blankRun, hgap]
    split_ifs
    · exact congrArg (List.cons _) hrest
    · rfl

/-- What starts before a bound is skipped alike before and after a move. -/
theorem dropWhile_start_map {α : Type} (start : α → Nat) {move : α → α}
    (h : ∀ entry, start (move entry) = d.offset (start entry)) (bound : Nat) (entries : List α) :
    (entries.map move).dropWhile (fun entry => start entry < d.offset bound) =
      (entries.dropWhile fun entry => start entry < bound).map move := by
  rw [List.dropWhile_map]
  congr 2
  funext entry
  rw [Function.comp_apply, h]
  exact decide_eq_decide.mpr Nat.add_lt_add_iff_right

namespace Displaced

theorem location_eq (h : layout.Displaced d moved) (span : Span) :
    moved.location (span.relocate d.offset) = (layout.location span).displace d := by
  simp only [location, Span.relocate, h.point, Location.displace]

theorem placement_eq (h : layout.Displaced d moved) {span : Span} (hspan : span ≠ .nowhere) :
    moved.placement (span.relocate d.offset) = (layout.placement span).displace d := by
  rw [placement, if_neg (Span.relocate_offset_ne_nowhere h.positive span), h.location_eq, placement,
    if_neg hspan]
  rfl

theorem leading_eq (h : layout.Displaced d moved) (span : Span) :
    moved.leading (span.relocate d.offset) = (layout.leading span).map (Comment.displace d) := by
  rw [leading, leading, h.comments, List.filter_map]
  congr 1
  refine List.filter_congr fun comment _ => ?_
  have hattached : (comment.displace d).attachedTo = some (span.relocate d.offset).start ↔
      comment.attachedTo = some span.start := by
    cases hc : comment.attachedTo <;>
      simp [Comment.displace, hc, Span.relocate, Displacement.offset]
  have hends : (comment.displace d).span.stop ≤ (span.relocate d.offset).start ↔
      comment.span.stop ≤ span.start := Nat.add_le_add_iff_right
  rw [Bool.eq_iff_iff]
  simp only [Function.comp_apply, Bool.and_eq_true, beq_iff_eq, decide_eq_true_eq, hattached, hends]

theorem trailing_eq (h : layout.Displaced d moved) (span : Span) :
    moved.trailing (span.relocate d.offset) = (layout.trailing span).map (Comment.displace d) := by
  have hdrop : (layout.comments.map (Comment.displace d)).dropWhile
        (fun c => c.span.start < (span.relocate d.offset).stop) =
      (layout.comments.dropWhile fun c => c.span.start < span.stop).map (Comment.displace d) :=
    dropWhile_start_map (fun c : Comment => c.span.start) (fun _ => rfl) span.stop layout.comments
  rw [trailing, trailing, h.comments, hdrop]
  exact blankRun_displace h.slice _ _

theorem hasChildren_eq (h : layout.Displaced d moved) (span : Span) :
    moved.hasChildren (span.relocate d.offset) = layout.hasChildren span := by
  have hdrop : (layout.nodes.map (Span.relocate d.offset)).dropWhile
        (fun node => node.start < (span.relocate d.offset).start) =
      (layout.nodes.dropWhile fun node => node.start < span.start).map
        (Span.relocate d.offset) :=
    dropWhile_start_map Span.start (fun _ => rfl) span.start layout.nodes
  rw [hasChildren, hasChildren, h.nodes, hdrop, holdsChild_relocate]

theorem inner_eq (h : layout.Displaced d moved) (span : Span) :
    moved.inner (span.relocate d.offset) = (layout.inner span).map (Comment.displace d) := by
  rw [inner, inner, h.hasChildren_eq]
  split_ifs
  · rfl
  · rw [h.comments, List.filter_map]
    congr 1
    refine List.filter_congr fun comment _ => ?_
    have hstart : (span.relocate d.offset).start ≤ (comment.displace d).span.start ↔
        span.start ≤ comment.span.start := Nat.add_le_add_iff_right
    have hstop : (comment.displace d).span.stop ≤ (span.relocate d.offset).stop ↔
        comment.span.stop ≤ span.stop := Nat.add_le_add_iff_right
    simp only [Function.comp_apply, hstart, hstop]

/-- The text of a comment is the same, also when its delimiters do not fit into its span. -/
theorem value_eq (h : layout.Displaced d moved) (comment : Comment) :
    (comment.displace d).value moved.text = comment.value layout.text := by
  have hstart : comment.span.start + d.bytes + 2 = d.offset (comment.span.start + 2) := by
    simp only [Displacement.offset]
    omega
  rcases comment with ⟨kind, ⟨start, stop⟩, attachedTo⟩
  cases kind with
  | line =>
    change Text.slice moved.text (start + d.bytes + 2) (d.offset stop) = _
    rw [hstart, h.slice]
    rfl
  | block =>
    change Text.slice moved.text (start + d.bytes + 2) (stop + d.bytes - 2) =
      Text.slice layout.text (start + 2) (stop - 2)
    by_cases hshort : stop < 2
    · -- `stop - 2` is cut off at zero here, but then both spans are inverted and hold no text
      have hmoved : ¬ start + d.bytes + 2 ≤ stop + d.bytes - 2 := by omega
      have hown : ¬ start + 2 ≤ stop - 2 := by omega
      simp [Text.slice, Text.slice?, hmoved, hown]
    · have hstop : stop + d.bytes - 2 = d.offset (stop - 2) := by
        simp only [Displacement.offset]
        omega
      rw [hstart, hstop, h.slice]

theorem group_eq (h : layout.Displaced d moved) (comments : List Comment) :
    moved.group (comments.map (Comment.displace d)) =
      (layout.group comments).map (List.map (CommentText.displace d)) := by
  have htext : ∀ comment : Comment,
      moved.commentText (comment.displace d) = (layout.commentText comment).displace d := by
    intro comment
    simp only [commentText, h.value_eq]
    rfl
  cases comments with
  | nil => rfl
  | cons comment rest => simp [group, htext]

theorem commentsAround_eq (h : layout.Displaced d moved) {span : Span} (hspan : span ≠ .nowhere) :
    moved.commentsAround (span.relocate d.offset) = (layout.commentsAround span).displace d := by
  have hmoved := Span.relocate_offset_ne_nowhere h.positive span
  simp only [commentsAround, h.attachComments, bne_iff_ne.mpr hspan, bne_iff_ne.mpr hmoved,
    Bool.and_true]
  split_ifs
  · simp only [h.leading_eq, h.trailing_eq, h.inner_eq, h.group_eq]
    rfl
  · rfl

theorem joinGroups_map (f : CommentText → CommentText) (first second : Option (List CommentText)) :
    joinGroups (first.map (List.map f)) (second.map (List.map f)) =
      (joinGroups first second).map (List.map f) := by
  cases first <;> cases second <;> simp [joinGroups]

/-- Places and comments move together, for every node that stands in the text. -/
theorem liftedMetadata_eq (h : layout.Displaced d moved) {own container : Span}
    (hown : own ≠ .nowhere) (hcontainer : container ≠ .nowhere) :
    moved.liftedMetadata (own.relocate d.offset) (container.relocate d.offset) =
      (layout.liftedMetadata own container).displace d := by
  have hmoved := Span.relocate_offset_ne_nowhere h.positive own
  have hapart : ((own.relocate d.offset).start != (container.relocate d.offset).start) =
      (own.start != container.start) := by
    rw [Bool.eq_iff_iff]
    simp [Span.relocate, Displacement.offset]
  simp only [liftedMetadata, h.placement_eq hown, h.commentsAround_eq hcontainer, h.attachComments,
    hapart, bne_iff_ne.mpr hown, bne_iff_ne.mpr hmoved, Bool.and_true, h.leading_eq, h.group_eq]
  split_ifs
  · simp only [Metadata.displace, CommentGroups.displace, joinGroups_map]
  · rfl

end Displaced

end Layout

/-! ## Displaced items -/

namespace Stmt

variable {layout moved : Layout}

theorem placed_relocate (h : layout.Displaced d moved) {item : Stmt}
    (hitem : Span.nowhere ∉ item.spans) :
    (item.relocate d.offset).placed moved = (item.placed layout).map (PlacedStmt.displace d) := by
  rw [placed, placed, payload_relocate, List.map_map, List.map_map]
  refine List.map_congr_left fun statement hmem => ?_
  have hown : statement.span ≠ .nowhere := by
    intro heq
    exact hitem (heq ▸ span_mem_spans_of_mem_payload hmem)
  have hcontainer : item.span ≠ .nowhere := by
    intro heq
    exact hitem (heq ▸ item.span_mem_spans)
  simp only [Function.comp_apply, span_relocate, h.liftedMetadata_eq hown hcontainer,
    PlacedStmt.displace]

/-- A body whose nodes all stand in the text has the same parts after another text, displaced. -/
theorem listParts_relocate (h : layout.Displaced d moved) {body : List Stmt}
    (hbody : Span.nowhere ∉ listSpans body) :
    listParts moved (body.map (relocate d.offset)) = (listParts layout body).displace d := by
  have hlocation : (fun span => moved.location (span.relocate d.offset)) =
      fun span => (layout.location span).displace d := funext h.location_eq
  have himports : (fun item : Stmt => (item.relocate d.offset).importRecords moved.location) =
      fun item => (item.importRecords layout.location).map (Specifier.displace d) := by
    funext item
    rw [importRecords_relocate, hlocation]
    exact (item.records_map_location layout.location _).1
  have hexports : (fun item : Stmt => (item.relocate d.offset).exportRecords moved.location) =
      fun item => (item.exportRecords layout.location).map (Specifier.displace d) := by
    funext item
    rw [exportRecords_relocate, hlocation]
    exact (item.records_map_location layout.location _).2
  have hplaced : body.flatMap (fun item => (item.relocate d.offset).placed moved) =
      body.flatMap fun item => (item.placed layout).map (PlacedStmt.displace d) :=
    List.flatMap_congr fun item hmem =>
      placed_relocate h (mt (fun hspan => spans_subset_listSpans hmem hspan) hbody)
  simp only [listParts, Decomposition.displace, List.flatMap_map, List.map_flatMap, himports,
    hexports, hplaced]

theorem listRelocate_eq_map (g : Nat → Nat) (body : List Stmt) :
    listRelocate g body = body.map (relocate g) := by
  induction body with
  | nil => rfl
  | cons item rest ih => exact congrArg (List.cons _) ih

end Stmt

/-! ## Displaced programs -/

theorem Program.nodeSpans_precededBy (program : Program) (text : String) :
    (program.precededBy text).nodeSpans =
      program.nodeSpans.map (Span.relocate (Displacement.ofText text.toList).offset) := by
  have hhashbang : (program.precededBy text).hashbang.toList =
      program.hashbang.toList.map (Span.relocate (Displacement.ofText text.toList).offset) := by
    simp [precededBy, Option.toList_map]
  have hbody : (program.precededBy text).body =
      Stmt.listRelocate (Displacement.ofText text.toList).offset program.body :=
    (Stmt.listRelocate_eq_map _ _).symm
  rw [nodeSpans, hhashbang, hbody]
  exact append_relocate (append_relocate rfl (flatMap_relocate Directive.spans_relocate _))
    (Stmt.listSpans_relocate _)

theorem Layout.displaced_precededBy (program : Program) (attachComments : Bool) {text : String}
    (h : text.toList.getLast? = some '\n') :
    (ofProgram program attachComments).Displaced (.ofText text.toList)
      (ofProgram (program.precededBy text) attachComments) where
  point offset := by
    simp only [ofProgram, Program.precededBy, String.toList_append]
    exact LineTable.point_append h offset
  slice start stop := by
    simp only [ofProgram, Layout.text, LineTable.ofText, Program.precededBy, String.toList_append]
    exact Text.slice_append text.toList program.source.toList start stop
  comments := rfl
  nodes := by
    cases attachComments with
    | false => rfl
    | true =>
      simp only [ofProgram, ↓reduceIte, Program.nodeSpans_precededBy]
      exact (List.map_mergeSort fun a _ b _ => (Span.le_relocate_offset a b).symm).symm
  attachComments := rfl
  positive := by
    apply Text.byteLength_pos
    rintro hnil
    rw [hnil] at h
    cases h

/-- As long as offsets have 32 bits after the move, and so have those of the comment delimiters, lines
grow by the plain number of line breaks. -/
theorem LineTable.toNat_line_below_lineBreaks (source text : List Char) {offset : Nat}
    (h : offset + Text.byteLength text + 2 < 4294967296) :
    (((ofText source).point offset).below (Text.lineBreaks text)).line.toNat =
      ((ofText source).point offset).line.toNat + Text.lineBreaks text := by
  have hbefore := Text.length_breaksBefore_le source offset
  have hbreaks := Text.lineBreaks_le_byteLength text
  have hline : ((ofText source).point offset).line.toNat =
      1 + (Text.breaksBefore source offset).length := toNat_line_point (by omega)
  exact Position.toNat_line_below (by omega)

/-- A program after a text that ends with a line feed is taken apart as the program alone is, with
offsets larger by the bytes of the text and lines by its line breaks. No node may stand in no text:
such a node has no position before the move and would have one after it. Lines are counted in 32 bits,
and the count does not start over where the larger offsets have 32 bits. -/
theorem Program.decompose_precededBy (program : Program) (options : Options) {text : String}
    (h : text.toList.getLast? = some '\n')
    (hnodes : Span.nowhere ∉ Stmt.listSpans program.body) :
    ((program.precededBy text).decompose options =
      match program.decompose options with
      | .ok whole => .ok (whole.displace (.ofText text.toList))
      | .error error => .error (error.relocate (Displacement.ofText text.toList).offset)) ∧
    ∀ offset, (Displacement.ofText text.toList).offset offset + 2 < 4294967296 →
      let position := (LineTable.ofText program.source.toList).point offset
      (position.below (Displacement.ofText text.toList).lines).line.toNat =
        position.line.toNat + (Displacement.ofText text.toList).lines := by
  refine ⟨?_, fun offset => LineTable.toNat_line_below_lineBreaks _ _⟩
  have hlayout := Layout.displaced_precededBy program options.attachComments h
  cases houtcome : program.decompose options with
  | ok whole =>
    obtain ⟨hnone, rfl⟩ := decompose_ok_iff.mp houtcome
    refine decompose_ok_iff.mpr ⟨?_, ?_⟩
    · intro item hmem
      obtain ⟨original, horiginal, rfl⟩ := List.mem_map.mp hmem
      exact mt Stmt.offending_of_offending_relocate (hnone original horiginal)
    · exact (Stmt.listParts_relocate hlayout hnodes).symm
  | error error => exact decompose_error_iff.mpr (decompose_error_iff.mp houtcome).relocate

namespace Sample

/-- A commented block, then spans that are inverted, cut a character or lie past the end. -/
def scattered : Program where
  source := "/*é*/\x7b\x7d"
  comments := [⟨.block, ⟨0, 6⟩, some 6⟩, ⟨.line, ⟨3, 1⟩, none⟩]
  body := [
    .block ⟨⟨6, 8⟩, []⟩,
    .exportDefault ⟨3, 40⟩ (.expr (.number ⟨⟨40, 3⟩, 1⟩)),
    .debugger ⟨50, 60⟩]

end Sample

/-- The largest offset of the program has 32 bits after the move, so that its line grows by one. -/
theorem Sample.decompose_scattered :
    ∃ whole, scattered.decompose {} = .ok whole ∧
      whole.statements.map (fun s => s.metadata.comments.leading) =
        [some [⟨.block, "é", 0, 6⟩], none, none] ∧
      Span.nowhere ∉ Stmt.listSpans scattered.body ∧
      Displacement.ofText "//\r\n".toList = ⟨4, 1⟩ ∧
      (scattered.precededBy "//\r\n").decompose {} = .ok (whole.displace ⟨4, 1⟩) ∧
      (((LineTable.ofText scattered.source.toList).point 60).below 1).line.toNat =
        ((LineTable.ofText scattered.source.toList).point 60).line.toNat + 1 := by
  have hnodes : Span.nowhere ∉ Stmt.listSpans scattered.body := by decide
  have hend : "//\r\n".toList.getLast? = some '\n' := by decide
  obtain ⟨hmoved, hlines⟩ := Program.decompose_precededBy scattered {} hend hnodes
  have hbytes : Displacement.ofText "//\r\n".toList = ⟨4, 1⟩ := by decide
  rw [hbytes] at hmoved hlines
  exact ⟨_, rfl, by decide +kernel, hnodes, hbytes, hmoved, hlines 60 (by decide)⟩

end ModuleParts
