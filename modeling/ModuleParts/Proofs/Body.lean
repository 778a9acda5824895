import ModuleParts.Proofs.Item

/-! # Decomposition of whole bodies

A run over a body either puts the descriptions of its items one after another or stops at the first
item that offends. Both outcomes are fixed by the items alone: the text, the comments and the
options decide only where things stand and which comments go with them.
-/
namespace ModuleParts

namespace Stmt

/-- The descriptions of all items of a body, one after another. -/
def listParts (layout : Layout) (body : List Stmt) : Decomposition where
  imports := body.flatMap (importRecords layout.location)
  exports := body.flatMap (exportRecords layout.location)
  statements := body.flatMap (placed layout)

theorem listParts_cons (layout : Layout) (item : Stmt) (rest : List Stmt) :
    listParts layout (item :: rest) = item.parts layout ++ listParts layout rest := rfl

@[simp] theorem map_statement_placed (layout : Layout) (item : Stmt) :
    (item.placed layout).map PlacedStmt.statement = item.payload := by
  simp [placed, Function.comp_def]

theorem body_listParts (layout : Layout) (body : List Stmt) :
    (listParts layout body).body = body.flatMap payload := by
  simp [Decomposition.body, listParts, List.map_flatMap]

/-- The first offending item of a body says this error. -/
inductive FirstOffence : List Stmt → DecomposeError → Prop
  | here {item : Stmt} {error : DecomposeError} (rest : List Stmt) (h : item.Offends error) :
      FirstOffence (item :: rest) error
  | later {item : Stmt} {rest : List Stmt} {error : DecomposeError} (h : ¬ item.Offending)
      (hrest : FirstOffence rest error) : FirstOffence (item :: rest) error

theorem FirstOffence.exists_offending {body : List Stmt} {error : DecomposeError}
    (h : FirstOffence body error) : ∃ item ∈ body, item.Offending := by
  induction h with
  | here rest h => exact ⟨_, List.mem_cons_self, _, h⟩
  | later _ _ ih =>
    obtain ⟨item, hmem, ho⟩ := ih
    exact ⟨item, List.mem_cons_of_mem _ hmem, ho⟩

theorem exists_firstOffence {body : List Stmt} (h : ∃ item ∈ body, item.Offending) :
    ∃ error, FirstOffence body error := by
  induction body with
  | nil => simp at h
  | cons item rest ih =>
    by_cases ho : item.Offending
    · obtain ⟨error, he⟩ := ho
      exact ⟨error, .here rest he⟩
    · obtain ⟨other, hmem, hother⟩ := h
      rcases List.mem_cons.mp hmem with rfl | hmem
      · exact (ho hother).elim
      · obtain ⟨error, he⟩ := ih ⟨other, hmem, hother⟩
        exact ⟨error, .later ho he⟩

/-- The body falls into items that do not offend, one that does, and any others after it. -/
theorem firstOffence_iff {body : List Stmt} {error : DecomposeError} :
    FirstOffence body error ↔ ∃ before item after, body = before ++ item :: after ∧
      (∀ earlier ∈ before, ¬ earlier.Offending) ∧ item.Offends error := by
  constructor
  · intro h
    induction h with
    | here rest h => exact ⟨[], _, rest, rfl, by simp, h⟩
    | @later item rest error h _ ih =>
      obtain ⟨before, offender, after, rfl, hbefore, ho⟩ := ih
      exact ⟨item :: before, offender, after, rfl, by simpa using ⟨h, hbefore⟩, ho⟩
  · rintro ⟨before, item, after, rfl, hbefore, ho⟩
    induction before with
    | nil => exact .here after ho
    | cons first before ih =>
      rw [List.forall_mem_cons] at hbefore
      exact .later hbefore.1 (ih hbefore.2)

theorem firstOffence_append_iff {first second : List Stmt} {error : DecomposeError} :
    FirstOffence (first ++ second) error ↔ FirstOffence first error ∨
      (∀ item ∈ first, ¬ item.Offending) ∧ FirstOffence second error := by
  induction first with
  | nil =>
    have hnil : ¬ FirstOffence [] error := nofun
    simp [hnil]
  | cons item rest ih =>
    rw [List.cons_append, List.forall_mem_cons]
    constructor
    · intro h
      cases h with
      | here _ h => exact .inl (.here rest h)
      | later h hrest =>
        rcases ih.mp hrest with hr | ⟨hr, hs⟩
        · exact .inl (.later h hr)
        · exact .inr ⟨⟨h, hr⟩, hs⟩
    · rintro (h | ⟨⟨h, hr⟩, hs⟩)
      · cases h with
        | here _ h => exact .here _ h
        | later h hr => exact .later h (ih.mpr (.inl hr))
      · exact .later h (ih.mpr (.inr ⟨hr, hs⟩))

variable (layout : Layout)

theorem decomposeList_of_not_offending {body : List Stmt}
    (h : ∀ item ∈ body, ¬ item.Offending) :
    decomposeList layout body = .ok (listParts layout body) := by
  induction body with
  | nil => rfl
  | cons item rest ih =>
    rw [List.forall_mem_cons] at h
    simp only [decomposeList, decompose_of_not_offending layout h.1, ih h.2, listParts_cons]

/-- Nothing after the first offending item is looked at. -/
theorem FirstOffence.decomposeList_eq {body : List Stmt} {error : DecomposeError}
    (h : FirstOffence body error) : decomposeList layout body = .error error := by
  induction h with
  | here rest h => simp only [decomposeList, h.decompose_eq layout]
  | later h _ ih => simp only [decomposeList, decompose_of_not_offending layout h, ih]

theorem decomposeList_ok_iff {body : List Stmt} {whole : Decomposition} :
    decomposeList layout body = .ok whole ↔
      (∀ item ∈ body, ¬ item.Offending) ∧ whole = listParts layout body := by
  by_cases h : ∃ item ∈ body, item.Offending
  · obtain ⟨error, he⟩ := exists_firstOffence h
    simp only [he.decomposeList_eq layout]
    constructor
    · nofun
    · rintro ⟨hnone, -⟩
      obtain ⟨item, hmem, ho⟩ := h
      exact (hnone item hmem ho).elim
  · have hnone : ∀ item ∈ body, ¬ item.Offending := fun item hmem ho => h ⟨item, hmem, ho⟩
    simp only [decomposeList_of_not_offending layout hnone, Except.ok.injEq]
    exact ⟨fun heq => ⟨hnone, heq.symm⟩, fun heq => heq.2.symm⟩

theorem decomposeList_error_iff {body : List Stmt} {error : DecomposeError} :
    decomposeList layout body = .error error ↔ FirstOffence body error := by
  constructor
  · intro h
    by_cases ho : ∃ item ∈ body, item.Offending
    · obtain ⟨other, he⟩ := exists_firstOffence ho
      rw [he.decomposeList_eq layout] at h
      cases h
      exact he
    · rw [decomposeList_of_not_offending layout fun item hmem hi => ho ⟨item, hmem, hi⟩] at h
      cases h
  · intro h
    exact h.decomposeList_eq layout

end Stmt

/-! ## Outcome of a run -/

/-- The location of a span in the text of a program. -/
def Program.locate (program : Program) (span : Span) : Location :=
  let lines := LineTable.ofText program.source.toList
  ⟨lines.point span.start, lines.point span.stop⟩

theorem Program.decompose_ok_iff {program : Program} {options : Options} {whole : Decomposition} :
    program.decompose options = .ok whole ↔ (∀ item ∈ program.body, ¬ item.Offending) ∧
      whole = Stmt.listParts (.ofProgram program options.attachComments) program.body :=
  Stmt.decomposeList_ok_iff _

theorem Program.decompose_error_iff {program : Program} {options : Options}
    {error : DecomposeError} :
    program.decompose options = .error error ↔ Stmt.FirstOffence program.body error :=
  Stmt.decomposeList_error_iff _

theorem Program.exists_decompose_ok_iff {program : Program} {options : Options} :
    (∃ whole, program.decompose options = .ok whole) ↔
      ∀ item ∈ program.body, ¬ item.Offending := by
  constructor
  · rintro ⟨whole, h⟩
    exact (decompose_ok_iff.mp h).1
  · intro h
    exact ⟨_, decompose_ok_iff.mpr ⟨h, rfl⟩⟩

theorem Root.decompose_of_program? {root : Root} {program : Program}
    (h : root.program? = .ok program) (options : Options) :
    root.decompose options = program.decompose options := by
  simp only [decompose, h]

theorem Stmt.Offends.not_invalidRoot_code {item : Stmt} {error : DecomposeError}
    (h : item.Offends error) :
    (∀ kind, error ≠ .invalidRoot kind) ∧ ∀ cause, error ≠ .code cause := by
  cases h <;> exact ⟨nofun, nofun⟩

/-- No statement is lost, doubled, moved or changed: what remains of a body is what remains of its
items, in their order. -/
theorem Program.body_eq_payloads {program : Program} {options : Options} {whole : Decomposition}
    (h : program.decompose options = .ok whole) :
    whole.body = program.body.flatMap Stmt.payload := by
  obtain ⟨-, rfl⟩ := decompose_ok_iff.mp h
  exact Stmt.body_listParts _ program.body

namespace Sample

/-- The declarator `{ x: [y, ...z], w = 1 } = d`. -/
def destructuring : Declarator where
  span := ⟨48, 75⟩
  pattern := .object ⟨48, 71⟩
    [⟨⟨50, 62⟩, .plain (.identifier ⟨⟨50, 51⟩, "x"⟩),
        .array ⟨53, 62⟩ [some (.identifier ⟨⟨54, 55⟩, "y"⟩ .bare)]
          (some ⟨⟨57, 61⟩, .identifier ⟨⟨60, 61⟩, "z"⟩ .bare⟩) .bare, false⟩,
      ⟨⟨64, 69⟩, .plain (.identifier ⟨⟨64, 65⟩, "w"⟩),
        .fallback ⟨64, 69⟩ (.identifier ⟨⟨64, 65⟩, "w"⟩ .bare) (.number ⟨⟨68, 69⟩, 1⟩) .bare, true⟩]
    none .bare
  init := some (.identifier ⟨⟨74, 75⟩, "d"⟩)
  definite := false

/-- The declarator `v = g`. -/
def plain : Declarator :=
  ⟨⟨77, 82⟩, .identifier ⟨⟨77, 78⟩, "v"⟩ .bare, some (.identifier ⟨⟨81, 82⟩, "g"⟩), false⟩

/-- The function `function () {}`. -/
def nameless : Func where
  span := ⟨100, 114⟩
  id := none
  generator := false
  async := false
  declare := false
  params := ⟨⟨109, 111⟩, [], none⟩
  body := some ⟨⟨112, 114⟩, []⟩

/-- A module with two import bindings, a split export, an empty statement and a nameless default. -/
def mixed : Program where
  source := "import d, \x7b \"e-f\" as g \x7d from \"m\";\n" ++
    "export const \x7b x: [y, ...z], w = 1 \x7d = d, v = g;;\n" ++
    "export default function () \x7b\x7d"
  body := [
    .importDecl
      { span := ⟨0, 34⟩
        specifiers := some [.default ⟨7, 8⟩ ⟨⟨7, 8⟩, "d"⟩,
          .named ⟨12, 22⟩ (.string ⟨⟨12, 17⟩, "e-f"⟩) ⟨⟨21, 22⟩, "g"⟩ false]
        source := ⟨⟨30, 33⟩, "m"⟩
        phase := none
        typeOnly := false },
    .exportNamed ⟨35, 83⟩ (some (.variable ⟨⟨42, 83⟩, .const, [destructuring, plain], false⟩)) [] none
      false,
    .empty ⟨83, 84⟩,
    .exportDefault ⟨85, 114⟩ (.function .definition nameless)]

/-- A module with names of clauses only: an import, an export list and an export of all. -/
def listed : Program where
  source := "import \x7b a as b \x7d from \"m\";\n" ++
    "export \x7b b as c, b as \"d-e\" \x7d;\n" ++
    "export * as f from \"n\";"
  body := [
    .importDecl
      { span := ⟨0, 27⟩
        specifiers := some [.named ⟨9, 15⟩ (.name ⟨⟨9, 10⟩, "a"⟩) ⟨⟨14, 15⟩, "b"⟩ false]
        source := ⟨⟨23, 26⟩, "m"⟩
        phase := none
        typeOnly := false },
    .exportNamed ⟨28, 58⟩ none
      [⟨⟨37, 43⟩, .reference ⟨⟨37, 38⟩, "b"⟩, .name ⟨⟨42, 43⟩, "c"⟩, false⟩,
        ⟨⟨45, 55⟩, .reference ⟨⟨45, 46⟩, "b"⟩, .string ⟨⟨50, 55⟩, "d-e"⟩, false⟩] none false,
    .exportAll ⟨⟨59, 82⟩, some (.name ⟨⟨71, 72⟩, "f"⟩), ⟨⟨78, 81⟩, "n"⟩, false⟩]

end Sample

theorem Sample.body_mixed : ∃ whole, mixed.decompose {} = .ok whole ∧
    whole.body = [.decl (.variable ⟨⟨48, 75⟩, .const, [destructuring], false⟩),
      .decl (.variable ⟨⟨77, 82⟩, .const, [plain], false⟩),
      defaultBinding ⟨100, 114⟩ (.function nameless)] := by
  obtain ⟨whole, h⟩ : ∃ whole, mixed.decompose {} = .ok whole := ⟨_, rfl⟩
  refine ⟨whole, h, ?_⟩
  rw [Program.body_eq_payloads h]
  rfl

/-- Records come from the items in their order, and their locations from the text alone. -/
theorem Program.records_eq_item_records {program : Program} {options : Options}
    {whole : Decomposition} (h : program.decompose options = .ok whole) :
    whole.imports = program.body.flatMap (Stmt.importRecords program.locate) ∧
      whole.exports = program.body.flatMap (Stmt.exportRecords program.locate) := by
  obtain ⟨-, rfl⟩ := decompose_ok_iff.mp h
  exact ⟨rfl, rfl⟩

theorem Sample.records_mixed :
    (∃ whole, mixed.decompose {} = .ok whole ∧
      whole.imports.map (fun r => (r.kind, r.localName, r.externalName, r.source)) =
        [(some .value, some "d", some "default", some "m"),
          (some .value, some "g", some "e-f", some "m")] ∧
      whole.exports.map (fun r => (r.localName, r.externalName)) =
        [(some "y", some "y"), (some "z", some "z"), (some "w", some "w"), (some "v", some "v"),
          (some "_default", some "default")]) ∧
    ∃ whole, listed.decompose {} = .ok whole ∧
      whole.imports.map (fun r => (r.localName, r.externalName, r.source)) =
        [(some "b", some "a", some "m")] ∧
      whole.exports.map (fun r => (r.localName, r.externalName, r.source)) =
        [(some "b", some "c", none), (some "b", some "d-e", none), (none, some "f", some "n")] := by
  obtain ⟨whole, h⟩ : ∃ whole, mixed.decompose {} = .ok whole := ⟨_, rfl⟩
  obtain ⟨lists, hlists⟩ : ∃ whole, listed.decompose {} = .ok whole := ⟨_, rfl⟩
  refine ⟨⟨whole, h, ?_, ?_⟩, lists, hlists, ?_, ?_⟩
  · rw [(Program.records_eq_item_records h).1]
    rfl
  · rw [(Program.records_eq_item_records h).2]
    simp [mixed, Stmt.exportRecords, Decl.scopeNames, Pattern.leafNames_eq, Pattern.parts,
      Pattern.ownName?, destructuring, plain, nameless, DefaultValue.localName,
      DefaultValue.ownId?]
  · rw [(Program.records_eq_item_records hlists).1]
    rfl
  · rw [(Program.records_eq_item_records hlists).2]
    rfl

/-- A program fails just when one of its items offends, and always with the error of the first such
item: never for its root, and never in the conversion of a default value. -/
theorem Root.decompose_error_iff_first_offender {root : Root} {program : Program}
    (hroot : root.program? = .ok program) (options : Options) :
    ((∃ error, root.decompose options = .error error) ↔
      ∃ item ∈ program.body, item.Offending) ∧
    (∀ error, root.decompose options = .error error ↔
      ∃ before item after, program.body = before ++ item :: after ∧
        (∀ earlier ∈ before, ¬ earlier.Offending) ∧ item.Offends error) ∧
    (∀ whole, root.decompose options = .ok whole → ∀ item ∈ program.body, ¬ item.Offending) ∧
    (∀ kind, root.decompose options ≠ .error (.invalidRoot kind)) ∧
    ∀ cause, root.decompose options ≠ .error (.code cause) := by
  have herror : ∀ error, root.decompose options = .error error ↔
      ∃ before item after, program.body = before ++ item :: after ∧
        (∀ earlier ∈ before, ¬ earlier.Offending) ∧ item.Offends error := by
    intro error
    rw [decompose_of_program? hroot, Program.decompose_error_iff, Stmt.firstOffence_iff]
  refine ⟨?_, herror, ?_, ?_, ?_⟩
  · simp only [decompose_of_program? hroot, Program.decompose_error_iff]
    exact ⟨fun ⟨_, h⟩ => h.exists_offending, Stmt.exists_firstOffence⟩
  · intro whole h
    rw [decompose_of_program? hroot] at h
    exact (Program.decompose_ok_iff.mp h).1
  · intro kind h
    obtain ⟨_, _, _, _, _, ho⟩ := (herror _).mp h
    exact ho.not_invalidRoot_code.1 kind rfl
  · intro cause h
    obtain ⟨_, _, _, _, _, ho⟩ := (herror _).mp h
    exact ho.not_invalidRoot_code.2 cause rfl

namespace Sample

/-- The import `import defer * as n from "m";`. -/
def deferredImport : ImportDecl where
  span := ⟨1, 30⟩
  specifiers := some [.namespace ⟨14, 20⟩ ⟨⟨19, 20⟩, "n"⟩]
  source := ⟨⟨26, 29⟩, "m"⟩
  phase := some .defer
  typeOnly := false

/-- The export `export enum E {}`. -/
def enumExport : Stmt :=
  .exportNamed ⟨30, 46⟩ (some (.enum ⟨37, 46⟩ ⟨⟨42, 43⟩, "E"⟩ ⟨44, 46⟩ [] false false)) [] none false

/-- A module with an empty statement and then two items that offend. -/
def deferred : Program where
  source := ";import defer * as n from \"m\";export enum E \x7b\x7d"
  body := [.empty ⟨0, 1⟩, .importDecl deferredImport, enumExport]

/-- The same items in another order. -/
def enumFirst : Program where
  source := deferred.source
  body := [.empty ⟨0, 1⟩, enumExport, .importDecl deferredImport]

/-- A named export of a function without a name. -/
def namelessExport : Program where
  body := [.empty ⟨0, 1⟩, .exportNamed ⟨93, 114⟩ (some (.function .definition nameless)) [] none false]

end Sample

/-- Of two items that offend, the first one says the error. -/
theorem Sample.decompose_deferred :
    (Root.unit ⟨deferred, []⟩).program? = .ok deferred ∧
    (Root.unit ⟨deferred, []⟩).decompose {} =
      .error (.unrecognizedSpecifier "ImportNamespaceSpecifier (Defer phase)" 14) ∧
    (Root.program enumFirst).decompose {} =
      .error (.unrecognizedDeclaration "TSEnumDeclaration" 37) ∧
    (Root.program namelessExport).decompose {} =
      .error (.unrecognizedDeclaration "FunctionDeclaration" 100) := by
  have hempty : ∀ earlier ∈ [Stmt.empty ⟨0, 1⟩], ¬ earlier.Offending := by
    intro earlier hmem
    obtain rfl := List.mem_singleton.mp hmem
    rintro ⟨error, ⟨⟩⟩
  have himport : (Stmt.importDecl deferredImport).Offends
      (.unrecognizedSpecifier "ImportNamespaceSpecifier (Defer phase)" 14) := by
    have hphase : deferredImport.phase = some .defer := rfl
    have hfirst : deferredImport.specifiers = some [.namespace ⟨14, 20⟩ ⟨⟨19, 20⟩, "n"⟩] := rfl
    exact .phasedImport hphase hfirst
  have henum : enumExport.Offends (.unrecognizedDeclaration "TSEnumDeclaration" 37) :=
    .unexportable _ _ _ _ (.enum ..)
  have hfunction : (Stmt.exportNamed ⟨93, 114⟩ (some (.function .definition nameless)) [] none
      false).Offends (.unrecognizedDeclaration "FunctionDeclaration" 100) :=
    .unexportable _ _ _ _ (.function _ rfl)
  refine ⟨rfl, ((Root.decompose_error_iff_first_offender rfl {}).2.1 _).mpr ?_,
    ((Root.decompose_error_iff_first_offender rfl {}).2.1 _).mpr ?_,
    ((Root.decompose_error_iff_first_offender rfl {}).2.1 _).mpr ?_⟩
  · exact ⟨[.empty ⟨0, 1⟩], _, _, rfl, hempty, himport⟩
  · exact ⟨[.empty ⟨0, 1⟩], _, _, rfl, hempty, henum⟩
  · exact ⟨[.empty ⟨0, 1⟩], _, _, rfl, hempty, hfunction⟩

end ModuleParts
