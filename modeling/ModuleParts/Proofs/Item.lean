import ModuleParts.Decompose
import ModuleParts.Proofs.BoundNames

/-! # What one item of a body stands for

An item is described apart from any run: the statements that remain of it, its import records and
its export records, and the errors that it can cause. Taking the item apart either gives all three
descriptions together or the error, and the layout enters only through places and comments.
-/
namespace ModuleParts

namespace Expr

/-- The identifier that an expression is, in parentheses or not. -/
def reference? : Expr → Option Identifier
  | .identifier id => some id
  | .paren _ inner => inner.reference?
  | _ => none

theorem withoutParens_eq_identifier_iff (e : Expr) (id : Identifier) :
    e.withoutParens = .identifier id ↔ e.reference? = some id := by
  fun_induction withoutParens e with
  | case1 span inner ih => exact ih
  | case2 e hparen =>
    cases e with
    | paren span inner => exact (hparen span inner rfl).elim
    | _ => simp [reference?]

end Expr

/-- The statement `const _default = init`, all of whose new nodes have one span. -/
def defaultBinding (span : Span) (init : Expr) : Stmt :=
  .decl (.variable
    { span, kind := .const, declare := false
      declarators :=
        [{ span, pattern := .identifier ⟨span, "_default"⟩ .bare, init := some init
           definite := false }] })

@[simp] theorem span_defaultBinding (span : Span) (init : Expr) :
    (defaultBinding span init).span = span := rfl

namespace DefaultValue

/-- The identifier by which a default value is known in its module. -/
def ownId? : DefaultValue → Option Identifier
  | .function _ f => f.id
  | .classDef c => c.id
  | .interface i => some i.id
  | .expr e => e.reference?

def localName (value : DefaultValue) : String :=
  (value.ownId?.map Identifier.name).getD "_default"

/-- The statement that declares a default value. A reference declares nothing. -/
def payload : DefaultValue → List Stmt
  | .function form f =>
    if f.id.isSome then [.decl (.function form f)] else [defaultBinding f.span (.function f)]
  | .classDef c =>
    if c.id.isSome then [.decl (.classDef c)] else [defaultBinding c.span (.classDef c)]
  | .interface _ => []
  | .expr e => if e.reference?.isSome then [] else [defaultBinding e.span e]

end DefaultValue

namespace Decl

/-- A declaration as statements, with the declarators of a variable declaration apart. -/
def pieces : Decl → List Stmt
  | .variable d => d.declarators.map fun declarator =>
      .decl (.variable ⟨declarator.span, d.kind, [declarator], d.declare⟩)
  | d => [.decl d]

/-- The names that a declaration brings into its scope. An ambient module brings none. -/
def scopeNames : Decl → List String
  | .variable d => d.declarators.flatMap fun declarator => declarator.pattern.leafNames
  | .function _ f => f.id.toList.map Identifier.name
  | .classDef c => c.id.toList.map Identifier.name
  | .typeAlias a => [a.id.name]
  | .interface i => [i.id.name]
  | .enum _ id _ _ _ _ => [id.name]
  | .namespace head _ _ =>
    match head.name with
    | .identifier id => [id.name]
    | _ => []
  | .global .. => []
  | .importEquals d => [d.id.name]

/-- The declaration has no export record and is refused under the tag: a function or class without
a name, or a kind of declaration that is never exported. A global declaration has no tag of its own. -/
inductive Unexportable : Decl → String → Prop
  | function (form : FunctionForm) {f : Func} (hid : f.id = none) :
      Unexportable (.function form f) "FunctionDeclaration"
  | classDef {c : ClassDef} (hid : c.id = none) : Unexportable (.classDef c) "ClassDeclaration"
  | enum (span : Span) (id : Identifier) (bodySpan : Span) (members : List EnumMember)
      (const declare : Bool) :
      Unexportable (.enum span id bodySpan members const declare) "TSEnumDeclaration"
  | namespace (head : NamespaceHead) (dotted : List NamespaceHead) (body : Option Block) :
      Unexportable (.namespace head dotted body) "TSModuleDeclaration"
  | global (span globalSpan : Span) (body : Block) (declare : Bool) :
      Unexportable (.global span globalSpan body declare) "Declaration"
  | importEquals (decl : ImportEquals) :
      Unexportable (.importEquals decl) "TSImportEqualsDeclaration"

end Decl

/-- The name that a clause means: an identifier as it is spelled, a string by its value. -/
def ModuleName.clauseName : ModuleName → String
  | .name id => id.name
  | .reference id => id.name
  | .string literal => literal.value

namespace ImportSpecifier

/-- The tag under which an import with a phase is refused. -/
def phaseTag : ImportSpecifier → ImportPhase → String
  | .named .., .source => "ImportSpecifier (Source phase)"
  | .named .., .defer => "ImportSpecifier (Defer phase)"
  | .default .., .source => "ImportDefaultSpecifier (Source phase)"
  | .default .., .defer => "ImportDefaultSpecifier (Defer phase)"
  | .namespace .., .source => "ImportNamespaceSpecifier (Source phase)"
  | .namespace .., .defer => "ImportNamespaceSpecifier (Defer phase)"

/-- The kind of binding, in a declaration that is type-only or not. -/
def bindingKind? (typeOnlyDecl : Bool) : ImportSpecifier → Option BindingKind
  | .named _ _ _ typeOnly => some (if typeOnly || typeOnlyDecl then .type else .value)
  | .default _ _ => some (if typeOnlyDecl then .type else .value)
  | .namespace _ _ => none

/-- The name on the other side, in a declaration that is type-only or not. -/
def externalName? (typeOnlyDecl : Bool) : ImportSpecifier → Option String
  | .named _ imported _ _ => some imported.clauseName
  | .default _ binding => some (if typeOnlyDecl then binding.name else "default")
  | .namespace _ _ => none

end ImportSpecifier

namespace Stmt

/-- The statements that remain of an item. -/
def payload : Stmt → List Stmt
  | .importDecl _ => []
  | .exportAll _ => []
  | .empty _ => []
  | .exportNamed _ none _ _ _ => []
  | .exportNamed _ (some d) _ _ _ => d.pieces
  | .exportDefault _ value => value.payload
  | .decl d => d.pieces
  | item => [item]

/-- The import records of an item, for a way to locate spans. -/
def importRecords (locate : Span → Location) : Stmt → List Specifier
  | .importDecl d =>
    match d.specifiers with
    | none => [{ source := some d.source.value, location := locate d.span }]
    | some [] => [{ source := some d.source.value, location := locate d.span }]
    | some specifiers => specifiers.map fun specifier =>
      { kind := specifier.bindingKind? d.typeOnly
        localName := some specifier.binding.name
        externalName := specifier.externalName? d.typeOnly
        source := some d.source.value
        location := locate specifier.span }
  | _ => []

/-- The export records of an item, for a way to locate spans. -/
def exportRecords (locate : Span → Location) : Stmt → List Specifier
  | .exportAll d =>
    [{ externalName := d.exported.map ModuleName.clauseName
       source := some d.source.value
       location := locate d.span }]
  | .exportDefault span value =>
    [{ localName := some value.localName, externalName := some "default"
       location := locate span }]
  | .exportNamed _ none specifiers source _ => specifiers.map fun specifier =>
    { localName := some specifier.localName.clauseName
      externalName := some specifier.exported.clauseName
      source := source.map StringLiteral.value
      location := locate specifier.span }
  | .exportNamed _ (some d) _ source _ => d.scopeNames.map fun name =>
    { localName := some name, externalName := some name
      source := source.map StringLiteral.value
      location := locate d.span }
  | _ => []

/-- The item cannot be taken apart, and says so with the error. -/
inductive Offends : Stmt → DecomposeError → Prop
  | phasedImport {decl : ImportDecl} {phase : ImportPhase} {first : ImportSpecifier}
      {rest : List ImportSpecifier} (hphase : decl.phase = some phase)
      (hspecifiers : decl.specifiers = some (first :: rest)) :
      Offends (.importDecl decl)
        (.unrecognizedSpecifier (first.phaseTag phase) first.span.start)
  | defaultInterface (span : Span) (i : Interface) :
      Offends (.exportDefault span (.interface i))
        (.unrecognizedDeclaration "TSInterfaceDeclaration" i.span.start)
  | unexportable (span : Span) {d : Decl} {tag : String} (specifiers : List ExportSpecifier)
      (source : Option StringLiteral) (typeOnly : Bool) (hd : d.Unexportable tag) :
      Offends (.exportNamed span (some d) specifiers source typeOnly)
        (.unrecognizedDeclaration tag d.span.start)

def Offending (item : Stmt) : Prop := ∃ error, item.Offends error

/-- The remaining statements of an item, each with its own place and the comments around the
item. -/
def placed (layout : Layout) (item : Stmt) : List PlacedStmt :=
  item.payload.map fun statement => ⟨statement, layout.liftedMetadata statement.span item.span⟩

def parts (layout : Layout) (item : Stmt) : Decomposition where
  imports := item.importRecords layout.location
  exports := item.exportRecords layout.location
  statements := item.placed layout

end Stmt

/-! ## Agreement with the handlers -/

variable (layout : Layout)

theorem Layout.liftedMetadata_self (span : Span) :
    layout.liftedMetadata span span = layout.metadata span := by
  simp [liftedMetadata, metadata]

/-- Only leading comments are joined to those of the container. -/
theorem Layout.trailing_liftedMetadata (own container : Span) :
    (layout.liftedMetadata own container).comments.trailing =
      (layout.commentsAround container).trailing := by
  simp only [liftedMetadata]
  split_ifs <;> rfl

theorem Layout.inner_liftedMetadata (own container : Span) :
    (layout.liftedMetadata own container).comments.inner =
      (layout.commentsAround container).inner := by
  simp only [liftedMetadata]
  split_ifs <;> rfl

/-- With comments left out, a lifted node has its placement and nothing else. -/
theorem Layout.liftedMetadata_of_not_attach {layout : Layout} (h : layout.attachComments = false)
    (own container : Span) : layout.liftedMetadata own container = ⟨layout.placement own, {}⟩ := by
  simp [liftedMetadata, commentsAround, h]

theorem ModuleName.text_eq_clauseName : text = clauseName := by
  funext name
  cases name <;> rfl

theorem ImportSpecifier.phaseTag_eq (specifier : ImportSpecifier) (phase : ImportPhase) :
    specifier.phaseTag phase = specifier.kind ++ " (" ++ phase.name ++ " phase)" := by
  cases specifier <;> cases phase <;> rfl

theorem ImportSpecifier.record_eq (decl : ImportDecl) (specifier : ImportSpecifier) :
    specifier.record layout decl =
      { kind := specifier.bindingKind? decl.typeOnly
        localName := some specifier.binding.name
        externalName := specifier.externalName? decl.typeOnly
        source := some decl.source.value
        location := layout.location specifier.span } := by
  cases specifier with
  | named span imported binding typeOnly =>
    cases typeOnly <;> cases h : decl.typeOnly <;> simp [record, bindingKind?, externalName?, h,
      ImportSpecifier.binding, ModuleName.text_eq_clauseName]
  | default span binding =>
    cases h : decl.typeOnly <;> simp [record, bindingKind?, externalName?, h, BindingKind.isValue,
      ImportSpecifier.binding]
  | «namespace» span binding => rfl

theorem ExportSpecifier.record_eq (source : Option String) :
    record layout source = fun specifier =>
      { localName := some specifier.localName.clauseName
        externalName := some specifier.exported.clauseName
        source
        location := layout.location specifier.span } := by
  funext specifier
  rw [record, ModuleName.text_eq_clauseName]

theorem ImportDecl.decompose_of_phase {decl : ImportDecl} {phase : ImportPhase}
    {first : ImportSpecifier} {rest : List ImportSpecifier} (hphase : decl.phase = some phase)
    (hspecifiers : decl.specifiers = some (first :: rest)) :
    decl.decompose layout =
      .error (.unrecognizedSpecifier (first.phaseTag phase) first.span.start) := by
  simp [decompose, hspecifiers, hphase, ImportSpecifier.phaseTag_eq]

/-- Without a phase, or with nothing to bind, an import has its records. -/
theorem ImportDecl.decompose_eq {decl : ImportDecl}
    (h : decl.phase = none ∨ decl.specifiers.getD [] = []) :
    decl.decompose layout =
      .ok { imports := (Stmt.importDecl decl).importRecords layout.location } := by
  have hrecord := funext (ImportSpecifier.record_eq layout decl)
  cases hs : decl.specifiers with
  | none => simp [decompose, Stmt.importRecords, hs, Specifier.sourceOnly]
  | some specifiers =>
    cases specifiers with
    | nil => simp [decompose, Stmt.importRecords, hs, Specifier.sourceOnly]
    | cons first rest =>
      have hphase : decl.phase = none := by simpa [hs] using h
      simp [decompose, Stmt.importRecords, hs, hphase, hrecord]

theorem DefaultValue.decompose_interface (container : Span) (i : Interface) :
    (DefaultValue.interface i).decompose layout container =
      .error (.unrecognizedDeclaration "TSInterfaceDeclaration" i.span.start) := rfl

theorem DefaultValue.bind_expr_of_reference?_eq_none (container : Span) {e : Expr}
    (h : e.reference? = none) :
    (DefaultValue.expr e).bind layout container =
      (DefaultValue.expr e).synthesize layout container := by
  simp only [bind]
  split
  · next id he =>
    rw [Expr.withoutParens_eq_identifier_iff, h] at he
    cases he
  · rfl

theorem DefaultValue.synthesize_eq (container : Span) {value : DefaultValue} {init : Expr}
    (h : value.toExpr = .ok init) :
    value.synthesize layout container = .ok ("_default",
      { statements := [⟨defaultBinding value.span init,
          layout.liftedMetadata value.span container⟩] }) := by
  rw [synthesize, h]
  rfl

/-- A default value other than an interface is always bound: its conversion to an expression is
asked for only where it exists. -/
theorem DefaultValue.bind_eq (container : Span) (value : DefaultValue)
    (h : ∀ i, value ≠ .interface i) :
    value.bind layout container =
      .ok (value.localName,
        { statements := value.payload.map fun statement =>
            ⟨statement, layout.liftedMetadata statement.span container⟩ }) := by
  cases value with
  | function form f =>
    have hinit : (DefaultValue.function form f).toExpr = .ok (.function f) := rfl
    cases hid : f.id with
    | none => simp [bind, hid, synthesize_eq layout container hinit, localName, ownId?, payload, span]
    | some id => simp [bind, hid, localName, ownId?, payload, Decomposition.ofStatement, Stmt.span,
        Decl.span]
  | classDef c =>
    have hinit : (DefaultValue.classDef c).toExpr = .ok (.classDef c) := rfl
    cases hid : c.id with
    | none => simp [bind, hid, synthesize_eq layout container hinit, localName, ownId?, payload, span]
    | some id => simp [bind, hid, localName, ownId?, payload, Decomposition.ofStatement, Stmt.span,
        Decl.span]
  | interface i => exact (h i rfl).elim
  | expr e =>
    cases hr : e.reference? with
    | none =>
      have hinit : (DefaultValue.expr e).toExpr = .ok e := rfl
      rw [bind_expr_of_reference?_eq_none layout container hr, synthesize_eq layout container hinit]
      simp [localName, ownId?, payload, hr, span]
    | some id =>
      have he := (Expr.withoutParens_eq_identifier_iff e id).mpr hr
      simp [bind, localName, ownId?, payload, hr, he]

theorem DefaultValue.decompose_eq (span : Span) (value : DefaultValue)
    (h : ∀ i, value ≠ .interface i) :
    value.decompose layout span = .ok ((Stmt.exportDefault span value).parts layout) := by
  simp only [decompose, bind_eq layout span value h]
  rfl

theorem VariableDecl.boundNames_eq_scopeNames (decl : VariableDecl) :
    decl.boundNames = (Decl.variable decl).scopeNames := by
  simp only [boundNames, Decl.scopeNames, Pattern.boundNames_eq_leafNames]

theorem VariableDecl.decompose_eq (container : Span) (decl : VariableDecl) :
    decl.decompose layout container =
      { statements := (Decl.variable decl).pieces.map fun statement =>
          ⟨statement, layout.liftedMetadata statement.span container⟩ } := by
  simp only [decompose, Decl.pieces, List.map_map]
  rfl

theorem Decl.decomposeExported_of_unexportable (container : Span) (source : Option String)
    {d : Decl} {tag : String} (h : d.Unexportable tag) :
    d.decomposeExported layout container source =
      .error (.unrecognizedDeclaration tag d.span.start) := by
  cases h with
  | function form hid => simp [decomposeExported, exportedId?, hid, kind]
  | classDef hid => simp [decomposeExported, exportedId?, hid, kind]
  | _ => rfl

/-- An exported declaration is exported under the names that it brings into scope. -/
theorem Decl.decomposeExported_eq (span : Span) (specifiers : List ExportSpecifier)
    (source : Option StringLiteral) (typeOnly : Bool) {d : Decl}
    (h : ∀ tag, ¬ d.Unexportable tag) :
    d.decomposeExported layout span (source.map StringLiteral.value) =
      .ok ((Stmt.exportNamed span (some d) specifiers source typeOnly).parts layout) := by
  cases d with
  | «variable» v =>
    simp only [decomposeExported, VariableDecl.decompose_eq, VariableDecl.boundNames_eq_scopeNames]
    rfl
  | function form f =>
    have hnamed : f.id ≠ none := fun hid => h _ (.function form hid)
    obtain ⟨id, hid⟩ := Option.ne_none_iff_exists'.mp hnamed
    simp only [decomposeExported, exportedId?, hid, Stmt.parts, Stmt.exportRecords, scopeNames]
    rfl
  | classDef c =>
    have hnamed : c.id ≠ none := fun hid => h _ (.classDef hid)
    obtain ⟨id, hid⟩ := Option.ne_none_iff_exists'.mp hnamed
    simp only [decomposeExported, exportedId?, hid, Stmt.parts, Stmt.exportRecords, scopeNames]
    rfl
  | typeAlias a => rfl
  | interface i => rfl
  | enum => exact (h _ (.enum ..)).elim
  | «namespace» => exact (h _ (.namespace ..)).elim
  | global => exact (h _ (.global ..)).elim
  | importEquals d => exact (h _ (.importEquals d)).elim

namespace Stmt

/-- An item that offends fails with its error, whatever the layout. -/
theorem Offends.decompose_eq {item : Stmt} {error : DecomposeError} (h : item.Offends error) :
    item.decompose layout = .error error := by
  cases h with
  | phasedImport hphase hspecifiers =>
    exact ImportDecl.decompose_of_phase layout hphase hspecifiers
  | defaultInterface span i => exact DefaultValue.decompose_interface layout span i
  | unexportable span specifiers source typeOnly hd =>
    exact Decl.decomposeExported_of_unexportable layout span _ hd

/-- An item that does not offend gives its three descriptions together. -/
theorem decompose_of_not_offending {item : Stmt} (h : ¬ item.Offending) :
    item.decompose layout = .ok (item.parts layout) := by
  cases item with
  | importDecl d =>
    apply ImportDecl.decompose_eq
    by_contra hd
    obtain ⟨hphase, hspecifiers⟩ := not_or.mp hd
    obtain ⟨phase, hphase⟩ := Option.ne_none_iff_exists'.mp hphase
    cases hs : d.specifiers with
    | none => simp [hs] at hspecifiers
    | some specifiers =>
      cases specifiers with
      | nil => simp [hs] at hspecifiers
      | cons first rest => exact h ⟨_, .phasedImport hphase hs⟩
  | exportAll d =>
    simp only [decompose, ExportAll.decompose, ModuleName.text_eq_clauseName]
    rfl
  | exportDefault span value =>
    apply DefaultValue.decompose_eq
    rintro i rfl
    exact h ⟨_, .defaultInterface span i⟩
  | exportNamed span declaration specifiers source typeOnly =>
    cases declaration with
    | none =>
      simp only [decompose, ExportSpecifier.record_eq]
      rfl
    | some d =>
      apply Decl.decomposeExported_eq
      intro tag hd
      exact h ⟨_, .unexportable span specifiers source typeOnly hd⟩
  | decl d =>
    cases d with
    | «variable» v => simp only [decompose, VariableDecl.decompose_eq]; rfl
    | _ =>
      simp only [decompose, ← Layout.liftedMetadata_self]
      rfl
  | empty span => rfl
  | _ =>
    simp only [decompose, ← Layout.liftedMetadata_self]
    rfl

/-- Records know spans only through their locations. -/
theorem records_map_location (item : Stmt) (locate : Span → Location) (f : Location → Location) :
    item.importRecords (fun span => f (locate span)) =
        (item.importRecords locate).map (fun r => { r with location := f r.location }) ∧
      item.exportRecords (fun span => f (locate span)) =
        (item.exportRecords locate).map (fun r => { r with location := f r.location }) := by
  cases item with
  | importDecl decl =>
    rcases decl with ⟨span, specifiers, source, phase, typeOnly⟩
    refine ⟨?_, rfl⟩
    cases specifiers with
    | none => rfl
    | some specifiers =>
      cases specifiers with
      | nil => rfl
      | cons first rest => simp [importRecords]
  | exportNamed span declaration specifiers source typeOnly =>
    cases declaration <;> simp [importRecords, exportRecords]
  | _ => exact ⟨rfl, rfl⟩

end Stmt

end ModuleParts
