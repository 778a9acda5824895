import Mathlib.Data.List.Nodup
import Mathlib.Data.List.Perm.Basic
import ModuleParts.Proofs.Body

/-! # Names in scope

Every item declares names, also under an export, or imports them. Decomposition keeps all of them,
in statements and in import records, and adds one more for a default export without a name. So a
module that exports only names of its own still does, and its names stay pairwise distinct unless it
uses the added name itself.
-/
namespace ModuleParts

/-- The names that a default value declares. An expression declares none. -/
def DefaultValue.scopeNames : DefaultValue → List String
  | .function _ f => f.id.toList.map Identifier.name
  | .classDef c => c.id.toList.map Identifier.name
  | .interface i => [i.id.name]
  | .expr _ => []

/-- The identifier that a default value refers to instead of declaring it. -/
def DefaultValue.reference? : DefaultValue → Option Identifier
  | .expr e => e.reference?
  | _ => none

namespace Stmt

/-- The names that an item declares, by itself or under an export. -/
def scopeNames : Stmt → List String
  | .decl d => d.scopeNames
  | .exportNamed _ (some d) _ _ _ => d.scopeNames
  | .exportDefault _ value => value.scopeNames
  | _ => []

@[simp] theorem scopeNames_decl (d : Decl) : (Stmt.decl d).scopeNames = d.scopeNames := rfl

def importedNames : Stmt → List String
  | .importDecl d => (d.specifiers.getD []).map fun specifier => specifier.binding.name
  | _ => []

/-- The names of the module that an item exports and leaves to others to declare. -/
def referredNames : Stmt → List String
  | .exportNamed _ none specifiers none _ =>
    specifiers.map fun specifier => specifier.localName.clauseName
  | .exportDefault _ value => value.reference?.toList.map Identifier.name
  | _ => []

/-- The item exports what it declares. -/
def ExportsDeclaration : Stmt → Prop
  | .exportNamed _ (some _) _ _ _ => True
  | .exportDefault _ value => value.reference? = none
  | _ => False

def isDefaultExport : Stmt → Bool
  | .exportDefault _ _ => true
  | _ => false

/-- A default export that has no name and refers to none. -/
def isNamelessDefault : Stmt → Bool
  | .exportDefault _ value => value.ownId?.isNone
  | _ => false

/-- The names that are made up for an item. -/
def addedNames (item : Stmt) : List String := if item.isNamelessDefault then ["_default"] else []

end Stmt

/-- All names that a module declares or imports. -/
def Program.scopeNames (program : Program) : List String :=
  program.body.flatMap Stmt.scopeNames ++ program.body.flatMap Stmt.importedNames

/-- All names that remaining statements declare or import records bind. -/
def Decomposition.scopeNames (parts : Decomposition) : List String :=
  parts.body.flatMap Stmt.scopeNames ++ parts.imports.filterMap Specifier.localName

/-! ## Names of one item -/

theorem scopeNames_defaultBinding (span : Span) (init : Expr) :
    (defaultBinding span init).scopeNames = ["_default"] := by
  simp [defaultBinding, Stmt.scopeNames, Decl.scopeNames, Pattern.leafNames_eq, Pattern.ownName?,
    Pattern.parts]

theorem Decl.scopeNames_pieces (d : Decl) : d.pieces.flatMap Stmt.scopeNames = d.scopeNames := by
  cases d with
  | «variable» v =>
    simp [pieces, scopeNames, List.flatMap_map, Stmt.scopeNames]
  | _ => simp [pieces, Stmt.scopeNames]

/-- The local name of a default value is declared by it, made up for it, or referred to. -/
theorem DefaultValue.names_eq_localName (value : DefaultValue) (span : Span) :
    value.scopeNames ++ (Stmt.exportDefault span value).addedNames ++
      (Stmt.exportDefault span value).referredNames = [value.localName] := by
  simp only [Stmt.addedNames, Stmt.isNamelessDefault, Stmt.referredNames, localName]
  cases value with
  | function form f => cases hid : f.id <;> simp [scopeNames, ownId?, reference?, hid]
  | classDef c => cases hid : c.id <;> simp [scopeNames, ownId?, reference?, hid]
  | interface i => simp [scopeNames, ownId?, reference?]
  | expr e => cases hr : e.reference? <;> simp [scopeNames, ownId?, reference?, hr]

/-- The statement of a default value other than an interface declares what the value declares and
what is made up for it. -/
theorem DefaultValue.scopeNames_payload {value : DefaultValue} (h : ∀ i, value ≠ .interface i)
    (span : Span) :
    value.payload.flatMap Stmt.scopeNames =
      value.scopeNames ++ (Stmt.exportDefault span value).addedNames := by
  simp only [Stmt.addedNames, Stmt.isNamelessDefault]
  cases value with
  | function form f =>
    cases hid : f.id with
    | none => simp [payload, scopeNames, ownId?, hid, scopeNames_defaultBinding]
    | some id => simp [payload, scopeNames, ownId?, hid, Stmt.scopeNames, Decl.scopeNames]
  | classDef c =>
    cases hid : c.id with
    | none => simp [payload, scopeNames, ownId?, hid, scopeNames_defaultBinding]
    | some id => simp [payload, scopeNames, ownId?, hid, Stmt.scopeNames, Decl.scopeNames]
  | interface i => exact (h i rfl).elim
  | expr e => cases hr : e.reference? <;> simp [payload, scopeNames, ownId?, hr,
      scopeNames_defaultBinding]

namespace Stmt

variable {item : Stmt}

theorem ne_interface_of_not_offending {span : Span} {value : DefaultValue}
    (h : ¬ (Stmt.exportDefault span value).Offending) : ∀ i, value ≠ .interface i := by
  rintro i rfl
  exact h ⟨_, .defaultInterface span i⟩

/-- What remains of an item declares what the item declares and what is made up for it. -/
theorem scopeNames_payload (h : ¬ item.Offending) :
    item.payload.flatMap scopeNames = item.scopeNames ++ item.addedNames := by
  cases item with
  | exportDefault span value =>
    exact DefaultValue.scopeNames_payload (ne_interface_of_not_offending h) span
  | exportNamed span declaration specifiers source typeOnly =>
    cases declaration with
    | none => rfl
    | some d => simp [payload, Decl.scopeNames_pieces, scopeNames, addedNames, isNamelessDefault]
  | decl d => simp [payload, Decl.scopeNames_pieces, scopeNames, addedNames, isNamelessDefault]
  | _ => rfl

theorem localNames_importRecords (item : Stmt) (locate : Span → Location) :
    (item.importRecords locate).filterMap Specifier.localName = item.importedNames := by
  cases item with
  | importDecl d =>
    cases hs : d.specifiers with
    | none => simp [importRecords, importedNames, hs]
    | some specifiers =>
      cases specifiers with
      | nil => simp [importRecords, importedNames, hs]
      | cons first rest =>
        simp [importRecords, importedNames, hs, List.filterMap_map]
  | _ => rfl

/-- A record without a source names something that its item declares, adds or refers to. -/
theorem exists_localName_of_mem_exportRecords {locate : Span → Location} {record : Specifier}
    (hmem : record ∈ item.exportRecords locate) (hsource : record.source = none) :
    ∃ name, record.localName = some name ∧
      name ∈ item.scopeNames ++ item.addedNames ++ item.referredNames := by
  cases item with
  | exportAll d =>
    obtain rfl := List.mem_singleton.mp hmem
    cases hsource
  | exportDefault span value =>
    obtain rfl := List.mem_singleton.mp hmem
    have hnames := DefaultValue.names_eq_localName value span
    exact ⟨value.localName, rfl, hnames ▸ List.mem_singleton_self _⟩
  | exportNamed span declaration specifiers source typeOnly =>
    cases declaration with
    | none =>
      obtain ⟨specifier, hspecifier, rfl⟩ := List.mem_map.mp hmem
      obtain rfl : source = none := Option.map_eq_none_iff.mp hsource
      refine ⟨_, rfl, List.mem_append_right _ ?_⟩
      exact List.mem_map_of_mem hspecifier
    | some d =>
      obtain ⟨name, hname, rfl⟩ := List.mem_map.mp hmem
      exact ⟨name, rfl, List.mem_append_left _ (List.mem_append_left _ hname)⟩
  | _ => simp [exportRecords] at hmem

/-- An exported declaration is exported under the very names that its statements declare. -/
theorem localNames_exportRecords (h : ¬ item.Offending) (hexports : item.ExportsDeclaration)
    (locate : Span → Location) :
    (item.exportRecords locate).map Specifier.localName =
      (item.payload.flatMap scopeNames).map some := by
  rw [scopeNames_payload h]
  cases item with
  | exportDefault span value =>
    have hnames := DefaultValue.names_eq_localName value span
    have hrefers : (Stmt.exportDefault span value).referredNames = [] := by
      have hr : value.reference? = none := hexports
      simp [referredNames, hr]
    rw [hrefers, List.append_nil] at hnames
    simp only [exportRecords, scopeNames, hnames, List.map_cons, List.map_nil]
  | exportNamed span declaration specifiers source typeOnly =>
    cases declaration with
    | none => exact hexports.elim
    | some d => simp [exportRecords, scopeNames, addedNames, isNamelessDefault, Function.comp_def]
  | _ => exact hexports.elim

end Stmt

/-! ## Names of a module -/

namespace Program

variable {program : Program} {options : Options} {whole : Decomposition}

/-- Decomposition keeps every name and adds the ones that are made up. -/
theorem scopeNames_perm (h : program.decompose options = .ok whole) :
    whole.scopeNames.Perm (program.scopeNames ++ program.body.flatMap Stmt.addedNames) := by
  obtain ⟨hnone, rfl⟩ := decompose_ok_iff.mp h
  set layout := Layout.ofProgram program options.attachComments
  have hdeclared : (Stmt.listParts layout program.body).body.flatMap Stmt.scopeNames =
      program.body.flatMap fun item => item.scopeNames ++ item.addedNames := by
    rw [Stmt.body_listParts, List.flatMap_assoc]
    exact List.flatMap_congr fun item hmem => Stmt.scopeNames_payload (hnone item hmem)
  have himported :
      (Stmt.listParts layout program.body).imports.filterMap Specifier.localName =
        program.body.flatMap Stmt.importedNames := by
    simp only [Stmt.listParts, List.filterMap_flatMap, Stmt.localNames_importRecords]
  rw [Decomposition.scopeNames, hdeclared, himported, scopeNames]
  have hsplit : (program.body.flatMap fun item => item.scopeNames ++ item.addedNames).Perm
      (program.body.flatMap Stmt.scopeNames ++ program.body.flatMap Stmt.addedNames) :=
    (List.flatMap_append_perm program.body _ _).symm
  refine (hsplit.append_right _).trans ?_
  rw [List.append_assoc, List.append_assoc]
  exact List.perm_append_comm.append_left _

theorem mem_scopeNames_of_mem (h : program.decompose options = .ok whole) {name : String}
    (hname : name ∈ program.scopeNames) : name ∈ whole.scopeNames :=
  (scopeNames_perm h).mem_iff.mpr (List.mem_append_left _ hname)

/-- A module that exports only names in its scope does so afterwards: every record without a source
names something that a statement declares or an import record binds. And every exported declaration
is exported under the names that its own statements declare. -/
theorem exports_stay_in_scope (h : program.decompose options = .ok whole) :
    ((∀ item ∈ program.body, ∀ name ∈ item.referredNames, name ∈ program.scopeNames) →
      ∀ record ∈ whole.exports, record.source = none →
        ∃ name, record.localName = some name ∧
          ((∃ imported ∈ whole.imports, imported.localName = some name) ∨
            ∃ statement ∈ whole.body, name ∈ statement.scopeNames)) ∧
    ∀ item ∈ program.body, item.ExportsDeclaration →
      ∃ parts, item.decompose (.ofProgram program options.attachComments) = .ok parts ∧
        parts.exports.map Specifier.localName = (parts.body.flatMap Stmt.scopeNames).map some := by
  have hnone := (decompose_ok_iff.mp h).1
  constructor
  · intro hscope record hrecord hsource
    rw [(decompose_ok_iff.mp h).2] at hrecord
    obtain ⟨item, hitem, hmem⟩ := List.mem_flatMap.mp hrecord
    obtain ⟨name, hlocal, hname⟩ := Stmt.exists_localName_of_mem_exportRecords hmem hsource
    refine ⟨name, hlocal, ?_⟩
    have hwhole : name ∈ whole.scopeNames := by
      rcases List.mem_append.mp hname with hown | hrefers
      · apply (scopeNames_perm h).mem_iff.mpr
        rcases List.mem_append.mp hown with hdeclared | hadded
        · apply List.mem_append_left
          exact List.mem_append_left _ (List.mem_flatMap.mpr ⟨item, hitem, hdeclared⟩)
        · exact List.mem_append_right _ (List.mem_flatMap.mpr ⟨item, hitem, hadded⟩)
      · exact mem_scopeNames_of_mem h (hscope item hitem name hrefers)
    rcases List.mem_append.mp hwhole with hstatement | himport
    · exact .inr (List.mem_flatMap.mp hstatement)
    · exact .inl (List.mem_filterMap.mp himport)
  · intro item hitem hexports
    have hitem := hnone item hitem
    refine ⟨_, Stmt.decompose_of_not_offending _ hitem, ?_⟩
    rw [Decomposition.body, Stmt.parts, Stmt.map_statement_placed]
    exact Stmt.localNames_exportRecords hitem hexports _

end Program

namespace Sample

/-- A class with a name and nothing else. -/
def bareClass (span name bodySpan : Span) (text : String) : ClassDef where
  span := span
  decorators := []
  id := some ⟨name, text⟩
  superClass := none
  bodySpan := bodySpan
  members := []
  abstract := false
  declare := false

/-- A module that exports an import, a class that comes later, and a destructured name twice. -/
def crossing : Program where
  source := "import * as n from \"m\";\nexport \x7b n, C as D \x7d;\nclass C \x7b\x7d\n" ++
    "export const [a, ...b] = n;\nexport default ((a));"
  body := [
    .importDecl
      { span := ⟨0, 23⟩
        specifiers := some [.namespace ⟨7, 13⟩ ⟨⟨12, 13⟩, "n"⟩]
        source := ⟨⟨19, 22⟩, "m"⟩
        phase := none
        typeOnly := false },
    .exportNamed ⟨24, 45⟩ none
      [⟨⟨33, 34⟩, .reference ⟨⟨33, 34⟩, "n"⟩, .name ⟨⟨33, 34⟩, "n"⟩, false⟩,
        ⟨⟨36, 42⟩, .reference ⟨⟨36, 37⟩, "C"⟩, .name ⟨⟨41, 42⟩, "D"⟩, false⟩] none false,
    .decl (.classDef (bareClass ⟨46, 56⟩ ⟨52, 53⟩ ⟨54, 56⟩ "C")),
    .exportNamed ⟨57, 84⟩
      (some (.variable ⟨⟨64, 84⟩, .const,
        [⟨⟨70, 83⟩, .array ⟨70, 79⟩ [some (.identifier ⟨⟨71, 72⟩, "a"⟩ .bare)]
          (some ⟨⟨74, 78⟩, .identifier ⟨⟨77, 78⟩, "b"⟩ .bare⟩) .bare,
          some (.identifier ⟨⟨82, 83⟩, "n"⟩), false⟩], false⟩)) [] none false,
    .exportDefault ⟨85, 106⟩
      (.expr (.paren ⟨100, 105⟩ (.paren ⟨101, 104⟩ (.identifier ⟨⟨102, 103⟩, "a"⟩))))]

theorem scopeNames_crossing : crossing.scopeNames = ["C", "a", "b", "n"] := by
  simp [Program.scopeNames, crossing, Stmt.scopeNames, Stmt.importedNames, Decl.scopeNames,
    DefaultValue.scopeNames, Pattern.leafNames_eq, Pattern.parts, Pattern.ownName?, bareClass,
    ImportSpecifier.binding]

end Sample

theorem Sample.exports_of_crossing :
    ∃ whole, crossing.decompose {} = .ok whole ∧
      whole.exports.map Specifier.localName = [some "n", some "C", some "a", some "b", some "a"] ∧
      ∀ record ∈ whole.exports, record.source = none →
        ∃ name, record.localName = some name ∧
          ((∃ imported ∈ whole.imports, imported.localName = some name) ∨
            ∃ statement ∈ whole.body, name ∈ statement.scopeNames) := by
  obtain ⟨whole, h⟩ : ∃ whole, crossing.decompose {} = .ok whole := ⟨_, rfl⟩
  have hscope : ∀ item ∈ crossing.body, ∀ name ∈ item.referredNames,
      name ∈ crossing.scopeNames := by
    rw [scopeNames_crossing]
    simp [crossing, Stmt.referredNames, ModuleName.clauseName, DefaultValue.reference?, Expr.reference?]
  refine ⟨whole, h, ?_, (Program.exports_stay_in_scope h).1 hscope⟩
  cases h
  rfl

/-! ## The name that is made up -/

namespace Program

variable {program : Program} {options : Options} {whole : Decomposition}

theorem flatMap_addedNames (body : List Stmt) :
    body.flatMap Stmt.addedNames =
      List.replicate (body.countP Stmt.isNamelessDefault) "_default" := by
  induction body with
  | nil => rfl
  | cons item rest ih =>
    rw [List.flatMap_cons, ih, List.countP_cons]
    cases hitem : item.isNamelessDefault with
    | false => simp [Stmt.addedNames, hitem]
    | true => simp [Stmt.addedNames, hitem, List.replicate_succ]

theorem countP_isNamelessDefault_le (body : List Stmt) :
    body.countP Stmt.isNamelessDefault ≤ body.countP Stmt.isDefaultExport := by
  apply List.countP_mono_left
  intro item _ hitem
  cases item with
  | exportDefault span value => rfl
  | _ => simp [Stmt.isNamelessDefault] at hitem

/-- Distinct names stay distinct, with one exception: a default export without a name of its own, in
a module where `_default` is a name already. -/
theorem scopeNames_nodup_iff (h : program.decompose options = .ok whole)
    (hdefault : program.body.countP Stmt.isDefaultExport ≤ 1) (hnames : program.scopeNames.Nodup) :
    whole.scopeNames.Nodup ↔
      ((∃ item ∈ program.body, item.isNamelessDefault = true) →
        "_default" ∉ program.scopeNames) := by
  have hone : program.body.countP Stmt.isNamelessDefault ≤ 1 :=
    Nat.le_trans (countP_isNamelessDefault_le program.body) hdefault
  rw [(scopeNames_perm h).nodup_iff, flatMap_addedNames]
  by_cases hsome : ∃ item ∈ program.body, item.isNamelessDefault = true
  · have hcount : program.body.countP Stmt.isNamelessDefault = 1 := by
      have := List.countP_pos_iff.mpr hsome
      omega
    rw [hcount, List.replicate_one, List.nodup_append_comm]
    simp [hsome, hnames]
  · have hcount : program.body.countP Stmt.isNamelessDefault = 0 := by
      have := mt List.countP_pos_iff.mp hsome
      omega
    simp [hcount, hsome, hnames]

end Program

namespace Sample

theorem scopeNames_mixed : mixed.scopeNames = ["y", "z", "w", "v", "d", "g"] := by
  simp [Program.scopeNames, mixed, Stmt.scopeNames, Stmt.importedNames, Decl.scopeNames,
    DefaultValue.scopeNames, Pattern.leafNames_eq, Pattern.parts, Pattern.ownName?, destructuring,
    plain, nameless, ImportSpecifier.binding]

/-- The module `var _default; export default 1;`, on two lines. -/
def clashing : Program where
  source := "var _default;\nexport default 1;"
  body := [
    .decl (.variable ⟨⟨0, 13⟩, .var,
      [⟨⟨4, 12⟩, .identifier ⟨⟨4, 12⟩, "_default"⟩ .bare, none, false⟩], false⟩),
    .exportDefault ⟨14, 31⟩ (.expr (.number ⟨⟨29, 30⟩, 1⟩))]

end Sample

theorem Sample.scopeNames_nodup_mixed :
    ∃ whole, mixed.decompose {} = .ok whole ∧
      mixed.body.countP Stmt.isDefaultExport ≤ 1 ∧ mixed.scopeNames.Nodup ∧
      (∃ item ∈ mixed.body, item.isNamelessDefault = true) ∧ whole.scopeNames.Nodup := by
  obtain ⟨whole, h⟩ : ∃ whole, mixed.decompose {} = .ok whole := ⟨_, rfl⟩
  have hdefault : mixed.body.countP Stmt.isDefaultExport ≤ 1 := by decide
  have hnames : mixed.scopeNames.Nodup := by
    rw [scopeNames_mixed]
    decide
  refine ⟨whole, h, hdefault, hnames, ?_, ?_⟩
  · exact ⟨.exportDefault ⟨85, 114⟩ (.function .definition nameless), by simp [mixed], rfl⟩
  · rw [Program.scopeNames_nodup_iff h hdefault hnames, scopeNames_mixed]
    decide

/-- With one default export and one declared name, the same name is declared twice afterwards. -/
theorem Sample.scopeNames_clashing :
    clashing.body.countP Stmt.isDefaultExport ≤ 1 ∧ clashing.scopeNames.Nodup ∧
      ∃ whole, clashing.decompose {} = .ok whole ∧ whole.scopeNames = ["_default", "_default"] ∧
        ¬ whole.scopeNames.Nodup := by
  have hnames : clashing.scopeNames = ["_default"] := by
    simp [Program.scopeNames, clashing, Stmt.scopeNames, Stmt.importedNames, Decl.scopeNames,
      DefaultValue.scopeNames, Pattern.leafNames_eq, Pattern.parts, Pattern.ownName?]
  obtain ⟨whole, h⟩ : ∃ whole, clashing.decompose {} = .ok whole := ⟨_, rfl⟩
  have hbody : whole.body =
      [.decl (.variable ⟨⟨4, 12⟩, .var,
        [⟨⟨4, 12⟩, .identifier ⟨⟨4, 12⟩, "_default"⟩ .bare, none, false⟩], false⟩),
        defaultBinding ⟨29, 30⟩ (.number ⟨⟨29, 30⟩, 1⟩)] := by
    cases h
    rfl
  have himports : whole.imports = [] := by
    cases h
    rfl
  have hwhole : whole.scopeNames = ["_default", "_default"] := by
    simp [Decomposition.scopeNames, hbody, himports, scopeNames_defaultBinding, Decl.scopeNames,
      Pattern.leafNames_eq, Pattern.parts, Pattern.ownName?]
  refine ⟨by decide, ?_, whole, h, hwhole, ?_⟩
  · rw [hnames]
    decide
  · rw [hwhole]
    decide

end ModuleParts
