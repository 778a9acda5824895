import ModuleParts.Proofs.Body

/-! # What text and comments cannot change

The text of a program gives locations, its comment table gives comments, and nothing else of a
decomposition looks at either of them. So two programs with one body fail alike or give the same
statements, offsets and bindings; and under one text they differ in comments only, as they do when
comments are left out.
-/
namespace ModuleParts

/-! ## Views of an answer -/

/-- What a record says apart from its place. -/
def Specifier.binding (record : Specifier) :
    Option BindingKind × Option String × Option String × Option String :=
  (record.kind, record.localName, record.externalName, record.source)

/-- A statement with its offsets. -/
def PlacedStmt.extent (placed : PlacedStmt) : Stmt × Option Nat × Option Nat :=
  (placed.statement, placed.metadata.placement.start, placed.metadata.placement.stop)

def PlacedStmt.withoutComments (placed : PlacedStmt) : PlacedStmt :=
  ⟨placed.statement, placed.metadata.placement, {}⟩

/-- The decomposition with the three groups of comments taken from every statement. -/
def Decomposition.withoutComments (parts : Decomposition) : Decomposition :=
  { parts with statements := parts.statements.map PlacedStmt.withoutComments }

namespace Layout

/-- The layout of the text alone. -/
def bare (layout : Layout) : Layout := ⟨layout.lines, [], [], false⟩

/-- Offsets come from the span and not from the text. -/
theorem offsets_placement (layout other : Layout) (span : Span) :
    (layout.placement span).start = (other.placement span).start ∧
      (layout.placement span).stop = (other.placement span).stop := by
  by_cases h : span = .nowhere <;> simp [placement, h]

end Layout

namespace Stmt

variable (layout other : Layout) (body : List Stmt)

/-! ## Views of the parts of a body -/

theorem map_binding_importRecords (item : Stmt) (locate : Span → Location) :
    (item.importRecords locate).map Specifier.binding =
      (item.importRecords fun _ => default).map Specifier.binding := by
  have hlocation := (item.records_map_location locate fun _ => default).1
  rw [hlocation, List.map_map]
  rfl

theorem map_binding_exportRecords (item : Stmt) (locate : Span → Location) :
    (item.exportRecords locate).map Specifier.binding =
      (item.exportRecords fun _ => default).map Specifier.binding := by
  have hlocation := (item.records_map_location locate fun _ => default).2
  rw [hlocation, List.map_map]
  rfl

/-- Bindings do not depend on the layout. -/
theorem bindings_listParts :
    (listParts layout body).imports.map Specifier.binding =
        (listParts other body).imports.map Specifier.binding ∧
      (listParts layout body).exports.map Specifier.binding =
        (listParts other body).exports.map Specifier.binding := by
  simp only [listParts, List.map_flatMap, map_binding_importRecords, map_binding_exportRecords,
    and_self]

/-- Statements and their offsets do not depend on the layout. -/
theorem extents_listParts :
    (listParts layout body).statements.map PlacedStmt.extent =
      (listParts other body).statements.map PlacedStmt.extent := by
  have hextent : ∀ statement : Stmt, ∀ container : Span,
      PlacedStmt.extent ⟨statement, layout.liftedMetadata statement.span container⟩ =
        PlacedStmt.extent ⟨statement, other.liftedMetadata statement.span container⟩ := by
    intro statement container
    obtain ⟨hstart, hstop⟩ := layout.offsets_placement other statement.span
    simp only [PlacedStmt.extent, Layout.liftedMetadata, hstart, hstop]
  simp only [listParts, placed, List.map_flatMap, List.map_map, Function.comp_def, hextent]

/-- Taking the comments from an answer gives the answer for the text alone. -/
theorem withoutComments_listParts :
    (listParts layout body).withoutComments = listParts layout.bare body := by
  have hplaced : ∀ item : Stmt,
      (item.placed layout).map PlacedStmt.withoutComments = item.placed layout.bare := by
    intro item
    have hbare : layout.bare.attachComments = false := rfl
    simp only [placed, List.map_map, Layout.liftedMetadata_of_not_attach hbare]
    rfl
  simp only [Decomposition.withoutComments, listParts, List.map_flatMap, hplaced]
  rfl

theorem comments_eq_of_not_attach {layout : Layout} (h : layout.attachComments = false)
    {body : List Stmt} {placed : PlacedStmt} (hmem : placed ∈ (listParts layout body).statements) :
    placed.metadata.comments = {} := by
  obtain ⟨item, -, hitem⟩ := List.mem_flatMap.mp hmem
  obtain ⟨statement, -, rfl⟩ := List.mem_map.mp hitem
  rw [Layout.liftedMetadata_of_not_attach h]

end Stmt

/-! ## Two programs with one body -/

/-- Programs with one body fail alike, whatever their texts, comments and options, or both succeed
with the same statements, offsets and bindings. Under one text they agree in all but comments, and
where comments are left out there are none. -/
theorem Program.decompose_of_same_body {program other : Program}
    (hbody : program.body = other.body) (options otherOptions : Options) :
    (∀ error, program.decompose options = .error error ↔
      other.decompose otherOptions = .error error) ∧
    (∀ whole, program.decompose options = .ok whole →
      ∃ otherWhole, other.decompose otherOptions = .ok otherWhole ∧
        whole.statements.map PlacedStmt.extent = otherWhole.statements.map PlacedStmt.extent ∧
        whole.imports.map Specifier.binding = otherWhole.imports.map Specifier.binding ∧
        whole.exports.map Specifier.binding = otherWhole.exports.map Specifier.binding ∧
        (program.source = other.source →
          whole.withoutComments = otherWhole.withoutComments)) ∧
    (options.attachComments = false → ∀ whole, program.decompose options = .ok whole →
      ∀ placed ∈ whole.statements, placed.metadata.comments = {}) := by
  refine ⟨?_, ?_, ?_⟩
  · intro error
    rw [decompose_error_iff, decompose_error_iff, hbody]
  · intro whole h
    obtain ⟨hnone, rfl⟩ := decompose_ok_iff.mp h
    rw [hbody] at hnone ⊢
    refine ⟨_, decompose_ok_iff.mpr ⟨hnone, rfl⟩, Stmt.extents_listParts _ _ _,
      (Stmt.bindings_listParts _ _ _).1, (Stmt.bindings_listParts _ _ _).2, ?_⟩
    intro hsource
    have hbare : (Layout.ofProgram program options.attachComments).bare =
        (Layout.ofProgram other otherOptions.attachComments).bare := by
      simp only [Layout.bare, Layout.ofProgram, hsource]
    rw [Stmt.withoutComments_listParts, Stmt.withoutComments_listParts, hbare]
  · intro hoff whole h placed hmem
    obtain ⟨-, rfl⟩ := decompose_ok_iff.mp h
    exact Stmt.comments_eq_of_not_attach hoff hmem

namespace Sample

/-- An exported value with comments before the export and before the value. -/
def annotated : Program where
  source := "/*a*/export default /*b*/1;"
  comments := [⟨.block, ⟨0, 5⟩, some 5⟩, ⟨.block, ⟨20, 25⟩, some 25⟩]
  body := [.exportDefault ⟨5, 27⟩ (.expr (.number ⟨⟨25, 26⟩, 1⟩))]

/-- The same body after line breaks, with another comment table. -/
def respaced : Program where
  source := "\n\n\n"
  comments := [⟨.line, ⟨3, 4⟩, some 5⟩]
  body := annotated.body

end Sample

/-- The two texts give different locations and comments to one statement with one pair of offsets;
without comments the first answer is what is left of it. -/
theorem Sample.decompose_annotated :
    ∃ whole plain moved, annotated.decompose {} = .ok whole ∧
      annotated.decompose ⟨false⟩ = .ok plain ∧ respaced.decompose {} = .ok moved ∧
      annotated.body = respaced.body ∧
      whole.statements.map (fun s => s.metadata.comments.leading) =
        [some [⟨.block, "a", 0, 5⟩, ⟨.block, "b", 20, 25⟩]] ∧
      moved.statements.map (fun s => s.metadata.comments.leading) = [some [⟨.line, "", 3, 4⟩]] ∧
      whole.exports.map (fun r => r.location.start) = [⟨1, 5⟩] ∧
      moved.exports.map (fun r => r.location.start) = [⟨4, 2⟩] ∧
      whole.statements.map PlacedStmt.extent = moved.statements.map PlacedStmt.extent ∧
      whole.exports.map Specifier.binding = moved.exports.map Specifier.binding ∧
      whole.withoutComments = plain.withoutComments ∧
      ∀ placed ∈ plain.statements, placed.metadata.comments = {} := by
  refine ⟨_, _, _, rfl, rfl, rfl, rfl, by decide +kernel, by decide +kernel, by decide +kernel,
    by decide +kernel, ?_⟩
  have hbody : annotated.body = respaced.body := rfl
  have hself : annotated.body = annotated.body := rfl
  obtain ⟨-, hmoved, -⟩ := Program.decompose_of_same_body hbody {} {}
  obtain ⟨-, hplain, -⟩ := Program.decompose_of_same_body hself {} ⟨false⟩
  obtain ⟨-, -, hoff⟩ := Program.decompose_of_same_body hself ⟨false⟩ {}
  obtain ⟨_, hok, hextents, -, hexports, -⟩ := hmoved _ rfl
  cases hok
  obtain ⟨_, hok, -, -, -, hcomments⟩ := hplain _ rfl
  cases hok
  exact ⟨hextents, hexports, hcomments rfl, hoff rfl _ rfl⟩

end ModuleParts
