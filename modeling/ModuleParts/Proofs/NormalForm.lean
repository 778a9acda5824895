import ModuleParts.Proofs.Concatenation

/-! # The normal form of a body

The statements that remain of a module are in normal form: no import or export syntax, no empty
statement, and one declarator to a variable declaration, which has its span. A statement in normal
form remains just as it is, so a second decomposition finds the same statements in the same places.
Comments may differ, since the second program has fewer nodes and no containers around them.
-/
namespace ModuleParts

namespace Stmt

/-- No import, no export, no empty statement, and no variable declaration but one that has a single
declarator and its span. -/
def IsNormal : Stmt → Prop
  | .importDecl _ => False
  | .exportAll _ => False
  | .exportDefault _ _ => False
  | .exportNamed _ _ _ _ _ => False
  | .empty _ => False
  | .decl (.variable d) => ∃ declarator, d.declarators = [declarator] ∧ declarator.span = d.span
  | _ => True

end Stmt

/-! ## What remains is normal -/

theorem isNormal_defaultBinding (span : Span) (init : Expr) : (defaultBinding span init).IsNormal :=
  ⟨_, rfl, rfl⟩

theorem Decl.isNormal_of_mem_pieces {d : Decl} {statement : Stmt} (h : statement ∈ d.pieces) :
    statement.IsNormal := by
  cases d with
  | «variable» v =>
    obtain ⟨declarator, -, rfl⟩ := List.mem_map.mp h
    exact ⟨declarator, rfl, rfl⟩
  | _ =>
    obtain rfl := List.mem_singleton.mp h
    trivial

theorem DefaultValue.isNormal_of_mem_payload {value : DefaultValue} {statement : Stmt}
    (h : statement ∈ value.payload) : statement.IsNormal := by
  cases value with
  | function form f =>
    simp only [payload] at h
    split_ifs at h <;> obtain rfl := List.mem_singleton.mp h
    · trivial
    · exact isNormal_defaultBinding _ _
  | classDef c =>
    simp only [payload] at h
    split_ifs at h <;> obtain rfl := List.mem_singleton.mp h
    · trivial
    · exact isNormal_defaultBinding _ _
  | interface i => simp [payload] at h
  | expr e =>
    simp only [payload] at h
    split_ifs at h
    · simp at h
    · obtain rfl := List.mem_singleton.mp h
      exact isNormal_defaultBinding _ _

namespace Stmt

theorem isNormal_of_mem_payload {item statement : Stmt} (h : statement ∈ item.payload) :
    statement.IsNormal := by
  cases item with
  | importDecl d => simp [payload] at h
  | exportAll d => simp [payload] at h
  | empty span => simp [payload] at h
  | exportNamed span declaration specifiers source typeOnly =>
    cases declaration with
    | none => simp [payload] at h
    | some d => exact Decl.isNormal_of_mem_pieces h
  | exportDefault span value => exact DefaultValue.isNormal_of_mem_payload h
  | decl d => exact Decl.isNormal_of_mem_pieces h
  | _ =>
    obtain rfl := List.mem_singleton.mp h
    trivial

/-! ## What is normal remains -/

variable {item : Stmt}

/-- A statement in normal form is what remains of it. -/
theorem IsNormal.payload_eq (h : item.IsNormal) : item.payload = [item] := by
  cases item with
  | decl d =>
    cases d with
    | «variable» v =>
      obtain ⟨declarator, hone, hspan⟩ := h
      rcases v with ⟨span, kind, declarators, declare⟩
      dsimp only at hone hspan
      subst hone hspan
      rfl
    | _ => rfl
  | importDecl | exportAll | exportDefault | exportNamed | empty => exact h.elim
  | _ => rfl

theorem IsNormal.records_eq (h : item.IsNormal) (locate : Span → Location) :
    item.importRecords locate = [] ∧ item.exportRecords locate = [] := by
  cases item with
  | importDecl | exportAll | exportDefault | exportNamed | empty => exact h.elim
  | _ => exact ⟨rfl, rfl⟩

theorem IsNormal.not_offending (h : item.IsNormal) : ¬ item.Offending := by
  rintro ⟨error, ho⟩
  cases ho <;> exact h.elim

variable {body : List Stmt}

theorem flatMap_payload_of_isNormal (h : ∀ item ∈ body, item.IsNormal) :
    body.flatMap payload = body := by
  calc body.flatMap payload = body.flatMap fun item => [item] :=
        List.flatMap_congr fun item hmem => (h item hmem).payload_eq
    _ = body := List.flatMap_singleton' body

/-- A body in normal form has no records. -/
theorem records_listParts_of_isNormal (layout : Layout) (h : ∀ item ∈ body, item.IsNormal) :
    (listParts layout body).imports = [] ∧ (listParts layout body).exports = [] := by
  constructor <;> apply List.flatMap_eq_nil_iff.mpr <;> intro item hmem
  · exact ((h item hmem).records_eq _).1
  · exact ((h item hmem).records_eq _).2

/-! ## Places do not depend on containers -/

theorem placements_listParts (layout : Layout) (body : List Stmt) :
    (listParts layout body).statements.map (fun s => s.metadata.placement) =
      (body.flatMap payload).map fun statement => layout.placement statement.span := by
  simp [listParts, placed, List.map_flatMap, Layout.liftedMetadata, Function.comp_def]

/-- Without comments a statement is known by its own span. -/
theorem statements_listParts_of_not_attach {layout : Layout} (h : layout.attachComments = false)
    (body : List Stmt) :
    (listParts layout body).statements =
      (body.flatMap payload).map fun statement => ⟨statement, layout.placement statement.span, {}⟩ := by
  have hplaced : placed layout = fun item : Stmt => item.payload.map fun statement =>
      ⟨statement, layout.placement statement.span, {}⟩ := by
    funext item
    simp only [placed, Layout.liftedMetadata_of_not_attach h]
  simp only [listParts, hplaced, List.map_flatMap]

end Stmt

/-- What remains of a module is in normal form, and taking it apart again leaves it as it is: no
records, the same statements, the same places, and all the same where comments are left out. -/
theorem Program.decompose_remaining_body {program : Program} {options : Options}
    {whole : Decomposition} (h : program.decompose options = .ok whole) :
    (∀ statement ∈ whole.body, statement.IsNormal) ∧
    ∃ again, (program.withBody whole.body).decompose options = .ok again ∧
      again.imports = [] ∧ again.exports = [] ∧ again.body = whole.body ∧
      again.statements.map (fun s => s.metadata.placement) =
        whole.statements.map (fun s => s.metadata.placement) ∧
      (options.attachComments = false → again.statements = whole.statements) := by
  obtain ⟨-, rfl⟩ := decompose_ok_iff.mp h
  rw [Stmt.body_listParts]
  set remaining := program.body.flatMap Stmt.payload
  have hnormal : ∀ statement ∈ remaining, statement.IsNormal := by
    intro statement hmem
    obtain ⟨item, -, hpayload⟩ := List.mem_flatMap.mp hmem
    exact Stmt.isNormal_of_mem_payload hpayload
  have hagain : remaining.flatMap Stmt.payload = remaining :=
    Stmt.flatMap_payload_of_isNormal hnormal
  have hplacement :
      (Layout.ofProgram (program.withBody remaining) options.attachComments).placement =
        (Layout.ofProgram program options.attachComments).placement :=
    funext (sameText_withBody program options.attachComments remaining program.body).placement_eq
  refine ⟨hnormal, _, decompose_ok_iff.mpr ⟨fun item hmem => (hnormal item hmem).not_offending, rfl⟩,
    ?_, ?_, ?_, ?_, ?_⟩
  · exact (Stmt.records_listParts_of_isNormal _ hnormal).1
  · exact (Stmt.records_listParts_of_isNormal _ hnormal).2
  · exact (Stmt.body_listParts _ _).trans hagain
  · rw [Stmt.placements_listParts, Stmt.placements_listParts, hplacement]
    exact congrArg (List.map _) hagain
  · intro hoff
    rw [Stmt.statements_listParts_of_not_attach hoff, Stmt.statements_listParts_of_not_attach hoff,
      hplacement]
    exact congrArg (List.map _) hagain

/-- A second decomposition of a module with imports, exports and a nameless default. -/
theorem Sample.decompose_remaining_mixed :
    ∃ whole again, mixed.decompose ⟨false⟩ = .ok whole ∧
      (mixed.withBody whole.body).decompose ⟨false⟩ = .ok again ∧
      whole.imports.length = 2 ∧ whole.exports.length = 5 ∧ whole.body.length = 3 ∧
      again.imports = [] ∧ again.exports = [] ∧ again.body = whole.body ∧
      again.statements = whole.statements := by
  obtain ⟨whole, h⟩ : ∃ whole, mixed.decompose ⟨false⟩ = .ok whole := ⟨_, rfl⟩
  obtain ⟨-, again, hagain, himports, hexports, hbody, -, hstatements⟩ :=
    Program.decompose_remaining_body h
  refine ⟨whole, again, h, hagain, ?_, ?_, ?_, himports, hexports, hbody, hstatements rfl⟩
  · cases h; rfl
  · cases h; rfl
  · cases h; rfl

end ModuleParts
