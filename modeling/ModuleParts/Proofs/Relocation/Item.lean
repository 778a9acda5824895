import ModuleParts.Proofs.Body
import ModuleParts.Proofs.Relocation.Spans

/-! # Items of a relocated body

Every description of an item commutes with relocation: what remains of it, its records up to the way
spans are located, and the error that it causes. No description looks at offsets, so whether an item
offends does not change either.
-/
namespace ModuleParts

variable {g : Nat → Nat}

/-! ## Own spans and names -/

@[simp] theorem VariableDecl.span_relocate (d : VariableDecl) :
    (d.relocate g).span = d.span.relocate g := by
  cases d
  rfl

@[simp] theorem Func.span_relocate (f : Func) : (f.relocate g).span = f.span.relocate g := by
  cases f
  rfl

@[simp] theorem ClassDef.span_relocate (c : ClassDef) :
    (c.relocate g).span = c.span.relocate g := by
  cases c
  rfl

@[simp] theorem Func.id_relocate (f : Func) :
    (f.relocate g).id = f.id.map (Identifier.relocate g) := by
  cases f
  rfl

@[simp] theorem ClassDef.id_relocate (c : ClassDef) :
    (c.relocate g).id = c.id.map (Identifier.relocate g) := by
  cases c
  rfl

@[simp] theorem Expr.span_relocate (e : Expr) : (e.relocate g).span = e.span.relocate g := by
  cases e with
  | function f => exact f.span_relocate
  | classDef c => exact c.span_relocate
  | _ => rfl

@[simp] theorem Decl.span_relocate (d : Decl) : (d.relocate g).span = d.span.relocate g := by
  cases d with
  | «variable» v => exact v.span_relocate
  | function form f => exact f.span_relocate
  | classDef c => exact c.span_relocate
  | _ => rfl

@[simp] theorem Stmt.span_relocate (item : Stmt) : (item.relocate g).span = item.span.relocate g := by
  cases item with
  | block b =>
    cases b
    rfl
  | decl d => exact d.span_relocate
  | _ => rfl

@[simp] theorem ModuleName.clauseName_relocate (name : ModuleName) :
    (name.relocate g).clauseName = name.clauseName := by
  cases name <;> rfl

@[simp] theorem ImportSpecifier.phaseTag_relocate (specifier : ImportSpecifier)
    (phase : ImportPhase) : (specifier.relocate g).phaseTag phase = specifier.phaseTag phase := by
  cases specifier <;> cases phase <;> rfl

@[simp] theorem Expr.reference?_relocate (e : Expr) :
    (e.relocate g).reference? = e.reference?.map (Identifier.relocate g) := by
  fun_induction reference? e with
  | case1 id => rfl
  | case2 span inner ih => exact ih
  | case3 e hid hparen =>
    cases e with
    | identifier id => exact (hid id rfl).elim
    | paren span inner => exact (hparen span inner rfl).elim
    | _ => rfl

/-! ## Patterns -/

theorem PatternProperty.map_value_listRelocate (properties : List PatternProperty) :
    (listRelocate g properties).map PatternProperty.value =
      (properties.map PatternProperty.value).map (Pattern.relocate g) := by
  induction properties with
  | nil => rfl
  | cons property rest ih =>
    cases property
    exact congrArg (List.cons _) ih

theorem Pattern.flatMap_slotRelocate (slots : List (Option Pattern)) :
    (slotRelocate g slots).flatMap Option.toList =
      (slots.flatMap Option.toList).map (relocate g) := by
  induction slots with
  | nil => rfl
  | cons slot rest ih =>
    cases slot with
    | none => exact ih
    | some p => exact congrArg (List.cons _) ih

theorem Binder.map_pattern_optionRelocate (rest : Option Binder) :
    (optionRelocate g rest).toList.map Binder.pattern =
      (rest.toList.map Binder.pattern).map (Pattern.relocate g) := by
  cases rest with
  | none => rfl
  | some binder =>
    cases binder
    rfl

theorem Pattern.parts_relocate (p : Pattern) :
    (p.relocate g).parts = p.parts.map (relocate g) := by
  cases p with
  | identifier id note => rfl
  | object span properties rest note =>
    rw [parts, List.map_append, ← PatternProperty.map_value_listRelocate,
      ← Binder.map_pattern_optionRelocate]
    rfl
  | array span elements rest note =>
    rw [parts, List.map_append, ← flatMap_slotRelocate, ← Binder.map_pattern_optionRelocate]
    rfl
  | fallback span left right note => rfl

@[simp] theorem Pattern.leafNames_relocate (p : Pattern) :
    (p.relocate g).leafNames = p.leafNames := by
  induction p using leafNames.induct with
  | case1 p ih =>
    have hown : (p.relocate g).ownName? = p.ownName? := by cases p <;> rfl
    rw [leafNames_eq, leafNames_eq p, hown, parts_relocate, List.flatMap_map]
    congr 1
    exact List.flatMap_congr fun q hq => ih ⟨q, hq⟩

/-! ## Statements that remain -/

theorem Declarator.listRelocate_eq_map (declarators : List Declarator) :
    listRelocate g declarators = declarators.map (relocate g) := by
  induction declarators with
  | nil => rfl
  | cons declarator rest ih => exact congrArg (List.cons _) ih

theorem Declarator.relocate_eq (d : Declarator) :
    d.relocate g =
      ⟨d.span.relocate g, d.pattern.relocate g, Expr.optionRelocate g d.init, d.definite⟩ := by
  cases d
  rfl

theorem VariableDecl.relocate_eq (d : VariableDecl) :
    d.relocate g =
      ⟨d.span.relocate g, d.kind, d.declarators.map (Declarator.relocate g), d.declare⟩ := by
  cases d
  rw [relocate, Declarator.listRelocate_eq_map]

@[simp] theorem Decl.scopeNames_relocate (d : Decl) : (d.relocate g).scopeNames = d.scopeNames := by
  cases d with
  | «variable» v =>
    change (v.relocate g).declarators.flatMap _ = v.declarators.flatMap _
    rw [VariableDecl.relocate_eq, List.flatMap_map]
    refine List.flatMap_congr fun declarator _ => ?_
    rw [Declarator.relocate_eq, Pattern.leafNames_relocate]
  | function form f =>
    change (f.relocate g).id.toList.map _ = f.id.toList.map _
    cases h : f.id <;> simp [h, Identifier.relocate]
  | classDef c =>
    change (c.relocate g).id.toList.map _ = c.id.toList.map _
    cases h : c.id <;> simp [h, Identifier.relocate]
  | «namespace» head dotted body =>
    rcases head with ⟨span, name, keyword, declare⟩
    cases name <;> rfl
  | _ => rfl

theorem Decl.pieces_relocate (d : Decl) :
    (d.relocate g).pieces = d.pieces.map (Stmt.relocate g) := by
  cases d with
  | «variable» v =>
    change (Decl.variable (v.relocate g)).pieces = _
    simp only [pieces, VariableDecl.relocate_eq, List.map_map]
    refine List.map_congr_left fun declarator _ => ?_
    cases declarator
    rfl
  | _ => rfl

theorem DefaultValue.localName_relocate (value : DefaultValue) :
    (value.relocate g).localName = value.localName := by
  have hid : (value.relocate g).ownId? = value.ownId?.map (Identifier.relocate g) := by
    cases value with
    | function form f => exact f.id_relocate
    | classDef c => exact c.id_relocate
    | interface i => rfl
    | expr e => exact e.reference?_relocate
  rw [localName, localName, hid, Option.map_map]
  rfl

theorem DefaultValue.payload_relocate (value : DefaultValue) :
    (value.relocate g).payload = value.payload.map (Stmt.relocate g) := by
  cases value with
  | function form f =>
    change (DefaultValue.function form (f.relocate g)).payload = _
    cases h : f.id <;> simp [payload, h] <;> rfl
  | classDef c =>
    change (DefaultValue.classDef (c.relocate g)).payload = _
    cases h : c.id <;> simp [payload, h] <;> rfl
  | interface i => rfl
  | expr e =>
    change (DefaultValue.expr (e.relocate g)).payload = _
    cases h : e.reference? <;> simp [payload, h]
    rfl

namespace Stmt

theorem payload_relocate (item : Stmt) :
    (item.relocate g).payload = item.payload.map (relocate g) := by
  cases item with
  | exportNamed span declaration specifiers source typeOnly =>
    cases declaration with
    | none => rfl
    | some d => exact d.pieces_relocate
  | exportDefault span value => exact value.payload_relocate
  | decl d => exact d.pieces_relocate
  | _ => rfl

/-! ## Records -/

variable (locate : Span → Location)

theorem importRecords_relocate (item : Stmt) :
    (item.relocate g).importRecords locate =
      item.importRecords fun span => locate (span.relocate g) := by
  cases item with
  | importDecl d =>
    rcases d with ⟨span, specifiers, source, phase, typeOnly⟩
    cases specifiers with
    | none => rfl
    | some specifiers =>
      cases specifiers with
      | nil => rfl
      | cons first rest =>
        change (importDecl ⟨span.relocate g, some (first.relocate g :: rest.map _),
          source.relocate g, phase, typeOnly⟩).importRecords locate = _
        simp only [importRecords]
        rw [← List.map_cons, List.map_map]
        refine List.map_congr_left fun specifier _ => ?_
        cases specifier <;> simp [ImportSpecifier.relocate, ImportSpecifier.bindingKind?,
          ImportSpecifier.externalName?, ImportSpecifier.binding, ImportSpecifier.span,
          Identifier.relocate, StringLiteral.relocate]
  | _ => rfl

theorem exportRecords_relocate (item : Stmt) :
    (item.relocate g).exportRecords locate =
      item.exportRecords fun span => locate (span.relocate g) := by
  cases item with
  | exportAll d =>
    rcases d with ⟨span, exported, source, typeOnly⟩
    cases exported with
    | none => rfl
    | some name => cases name <;> rfl
  | exportDefault span value =>
    change [_] = [_]
    rw [DefaultValue.localName_relocate]
  | exportNamed span declaration specifiers source typeOnly =>
    have hsource : (source.map (StringLiteral.relocate g)).map StringLiteral.value =
        source.map StringLiteral.value := by
      cases source <;> rfl
    cases declaration with
    | none =>
      change (specifiers.map (ExportSpecifier.relocate g)).map _ = specifiers.map _
      rw [List.map_map, hsource]
      refine List.map_congr_left fun specifier _ => ?_
      simp [ExportSpecifier.relocate]
    | some d =>
      change (d.relocate g).scopeNames.map _ = d.scopeNames.map _
      rw [hsource, Decl.scopeNames_relocate, Decl.span_relocate]
  | _ => rfl

end Stmt

/-! ## Errors -/

/-- The error about the same thing at another offset. -/
def DecomposeError.relocate (g : Nat → Nat) : DecomposeError → DecomposeError
  | .unrecognizedSpecifier kind start => .unrecognizedSpecifier kind (g start)
  | .unrecognizedDeclaration kind start => .unrecognizedDeclaration kind (g start)
  | error => error

theorem Decl.Unexportable.relocate {d : Decl} {tag : String} (h : d.Unexportable tag) :
    (d.relocate g).Unexportable tag := by
  cases h with
  | function form hid => exact .function form (by simp [hid])
  | classDef hid => exact .classDef (by simp [hid])
  | enum => exact .enum ..
  | «namespace» => exact .namespace ..
  | global => exact .global ..
  | importEquals => exact .importEquals _

theorem Decl.unexportable_of_unexportable_relocate {d : Decl} {tag : String}
    (h : (d.relocate g).Unexportable tag) : d.Unexportable tag := by
  cases d with
  | «variable» | typeAlias | interface => cases h
  | function form f =>
    cases h with
    | function _ hid => exact .function form (by simpa using hid)
  | classDef c =>
    cases h with
    | classDef hid => exact .classDef (by simpa using hid)
  | enum =>
    cases h
    exact .enum ..
  | «namespace» =>
    cases h
    exact .namespace ..
  | global =>
    cases h
    exact .global ..
  | importEquals =>
    cases h
    exact .importEquals _

namespace Stmt

theorem Offends.relocate {item : Stmt} {error : DecomposeError} (h : item.Offends error) :
    (item.relocate g).Offends (error.relocate g) := by
  cases h with
  | @phasedImport decl phase first rest hphase hspecifiers =>
    have hmoved : (decl.relocate g).specifiers =
        some (first.relocate g :: rest.map (ImportSpecifier.relocate g)) := by
      simp [ImportDecl.relocate, hspecifiers]
    have hoffends : (Stmt.importDecl (decl.relocate g)).Offends _ := .phasedImport hphase hmoved
    rw [ImportSpecifier.phaseTag_relocate, ImportSpecifier.span_relocate] at hoffends
    exact hoffends
  | defaultInterface span i => exact .defaultInterface (span.relocate g) (i.relocate g)
  | @unexportable span d tag specifiers source typeOnly hd =>
    have hmoved : (d.relocate g).Unexportable tag := hd.relocate
    have hoffends := Offends.unexportable (span.relocate g)
      (specifiers.map (ExportSpecifier.relocate g)) (source.map (StringLiteral.relocate g)) typeOnly
      hmoved
    rw [Decl.span_relocate] at hoffends
    exact hoffends

theorem offending_of_offending_relocate {item : Stmt} (h : (item.relocate g).Offending) :
    item.Offending := by
  obtain ⟨error, h⟩ := h
  generalize hmoved : item.relocate g = moved at h
  cases h with
  | @phasedImport decl phase first rest hphase hspecifiers =>
    cases item with
    | importDecl d =>
      obtain rfl := importDecl.inj hmoved
      obtain ⟨specifiers, hs, hcons⟩ := Option.map_eq_some_iff.mp hspecifiers
      cases specifiers with
      | nil => cases hcons
      | cons first rest => exact ⟨_, .phasedImport hphase hs⟩
    | _ => cases hmoved
  | defaultInterface span i =>
    cases item with
    | exportDefault span value =>
      cases value with
      | interface i => exact ⟨_, .defaultInterface span i⟩
      | _ => cases hmoved
    | _ => cases hmoved
  | unexportable span specifiers source typeOnly hd =>
    cases item with
    | exportNamed span declaration specifiers source typeOnly =>
      cases declaration with
      | none => cases hmoved
      | some d =>
        cases hmoved
        exact ⟨_, .unexportable span specifiers source typeOnly
          (Decl.unexportable_of_unexportable_relocate hd)⟩
    | _ => cases hmoved

/-- The first offence of a body is the first one of the relocated body. -/
theorem FirstOffence.relocate {body : List Stmt} {error : DecomposeError}
    (h : FirstOffence body error) :
    FirstOffence (body.map (Stmt.relocate g)) (error.relocate g) := by
  induction h with
  | here rest h => exact .here _ h.relocate
  | later h _ ih => exact .later (mt offending_of_offending_relocate h) ih

end Stmt

end ModuleParts
