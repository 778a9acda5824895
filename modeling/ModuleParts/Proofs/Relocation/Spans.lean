import ModuleParts.Proofs.Relocation.Tree

/-! # Spans of a relocated tree

The spans of the nodes of a relocated tree are those of the tree itself, each relocated, in the same
order. Spans of parts are put together by `::` and `++` only, and both go through `List.map`.
-/
namespace ModuleParts

variable {g : Nat → Nat}

theorem cons_relocate {own : Span} {spans spans' : List Span}
    (h : spans' = spans.map (Span.relocate g)) :
    own.relocate g :: spans' = (own :: spans).map (Span.relocate g) := by
  rw [h, List.map_cons]

theorem append_relocate {first first' second second' : List Span}
    (hfirst : first' = first.map (Span.relocate g))
    (hsecond : second' = second.map (Span.relocate g)) :
    first' ++ second' = (first ++ second).map (Span.relocate g) := by
  rw [hfirst, hsecond, List.map_append]

theorem flatMap_relocate {α : Type} {move : α → α} {spans : α → List Span}
    (h : ∀ a, spans (move a) = (spans a).map (Span.relocate g)) (as : List α) :
    (as.map move).flatMap spans = (as.flatMap spans).map (Span.relocate g) := by
  rw [List.flatMap_map, List.map_flatMap]
  exact congrArg (as.flatMap ·) (funext h)

@[simp] theorem PropertyName.span_relocate (name : PropertyName) :
    (name.relocate g).span = name.span.relocate g := by
  cases name <;> rfl

@[simp] theorem ImportSpecifier.span_relocate (specifier : ImportSpecifier) :
    (specifier.relocate g).span = specifier.span.relocate g := by
  cases specifier <;> rfl

theorem cons_name_relocate {name : PropertyName} {spans spans' : List Span}
    (h : spans' = spans.map (Span.relocate g)) :
    (name.relocate g).span :: spans' = (name.span :: spans).map (Span.relocate g) := by
  rw [name.span_relocate, cons_relocate h]

theorem Directive.spans_relocate (directive : Directive) :
    (directive.relocate g).spans = directive.spans.map (Span.relocate g) := rfl

theorem ModuleName.spans_relocate (name : ModuleName) :
    (name.relocate g).spans = name.spans.map (Span.relocate g) := by
  cases name <;> rfl

theorem identifierSpans_relocate (id : Option Identifier) :
    identifierSpans (id.map (Identifier.relocate g)) =
      (identifierSpans id).map (Span.relocate g) := by
  cases id <;> rfl

theorem ImportSpecifier.spans_relocate (specifier : ImportSpecifier) :
    (specifier.relocate g).spans = specifier.spans.map (Span.relocate g) := by
  cases specifier with
  | named span imported binding typeOnly =>
    exact append_relocate (cons_relocate imported.spans_relocate) rfl
  | _ => rfl

theorem ImportDecl.spans_relocate (decl : ImportDecl) :
    (decl.relocate g).spans = decl.spans.map (Span.relocate g) := by
  have hspecifiers : (decl.relocate g).specifiers.getD [] =
      (decl.specifiers.getD []).map (ImportSpecifier.relocate g) := by
    cases h : decl.specifiers <;> simp [relocate, h]
  rw [spans, hspecifiers]
  exact append_relocate (cons_relocate (flatMap_relocate ImportSpecifier.spans_relocate _)) rfl

theorem ExportSpecifier.spans_relocate (specifier : ExportSpecifier) :
    (specifier.relocate g).spans = specifier.spans.map (Span.relocate g) :=
  append_relocate (cons_relocate specifier.localName.spans_relocate)
    specifier.exported.spans_relocate

theorem ExportAll.spans_relocate (decl : ExportAll) :
    (decl.relocate g).spans = decl.spans.map (Span.relocate g) := by
  have hexported : (decl.relocate g).exported.toList =
      decl.exported.toList.map (ModuleName.relocate g) := by
    cases h : decl.exported <;> simp [relocate, h]
  rw [spans, hexported]
  exact append_relocate (cons_relocate (flatMap_relocate ModuleName.spans_relocate _)) rfl

theorem ModuleReference.spans_relocate (reference : ModuleReference) :
    (reference.relocate g).spans = reference.spans.map (Span.relocate g) := by
  cases reference <;> rfl

theorem ImportEquals.spans_relocate (decl : ImportEquals) :
    (decl.relocate g).spans = decl.spans.map (Span.relocate g) :=
  cons_relocate (cons_relocate decl.reference.spans_relocate)

theorem NamespaceHead.spans_relocate (head : NamespaceHead) :
    (head.relocate g).spans = head.spans.map (Span.relocate g) :=
  cons_relocate (cons_name_relocate rfl)

section

open Annotation (optionSpans optionRelocate)

mutual

theorem TypeExpr.spans_relocate : ∀ t : TypeExpr,
    (t.relocate g).spans = t.spans.map (Span.relocate g)
  | .any _ => rfl
  | .string _ => rfl
  | .number _ => rfl
  | .reference _ _ => rfl
  | .literal _ members => cons_relocate (Signature.listSpans_relocate members)
  | .other _ _ _ => rfl

theorem Signature.spans_relocate : ∀ s : Signature,
    (s.relocate g).spans = s.spans.map (Span.relocate g)
  | ⟨_, _, _, _, annotation⟩ =>
    cons_relocate <| cons_name_relocate <| Annotation.optionSpans_relocate annotation

theorem Signature.listSpans_relocate : ∀ members : List Signature,
    Signature.listSpans (Signature.listRelocate g members) =
      (Signature.listSpans members).map (Span.relocate g)
  | [] => rfl
  | s :: rest => append_relocate s.spans_relocate (Signature.listSpans_relocate rest)

theorem Annotation.spans_relocate : ∀ a : Annotation,
    (a.relocate g).spans = a.spans.map (Span.relocate g)
  | ⟨_, type⟩ => cons_relocate type.spans_relocate

theorem Annotation.optionSpans_relocate : ∀ a : Option Annotation,
    optionSpans (optionRelocate g a) = (optionSpans a).map (Span.relocate g)
  | none => rfl
  | some a => a.spans_relocate

end

end

theorem Ascription.spans_relocate (note : Ascription) :
    (note.relocate g).spans = note.spans.map (Span.relocate g) :=
  Annotation.optionSpans_relocate note.annotation

theorem TypeAlias.spans_relocate (a : TypeAlias) :
    (a.relocate g).spans = a.spans.map (Span.relocate g) :=
  cons_relocate (cons_relocate a.type.spans_relocate)

theorem Interface.spans_relocate (interface : Interface) :
    (interface.relocate g).spans = interface.spans.map (Span.relocate g) :=
  cons_relocate (cons_relocate (cons_relocate (Signature.listSpans_relocate interface.members)))

-- One case for every constructor, put together as `spans` puts its list together.
mutual

theorem Expr.spans_relocate : ∀ e : Expr, (e.relocate g).spans = e.spans.map (Span.relocate g)
  | .identifier _ => rfl
  | .number _ => rfl
  | .string _ => rfl
  | .boolean _ _ => rfl
  | .null _ => rfl
  | .this _ => rfl
  | .paren _ inner => cons_relocate inner.spans_relocate
  | .binary _ left _ right =>
    append_relocate (cons_relocate left.spans_relocate) right.spans_relocate
  | .call _ callee arguments =>
    append_relocate (cons_relocate callee.spans_relocate) (Expr.listSpans_relocate arguments)
  | .member _ object _ => append_relocate (cons_relocate object.spans_relocate) rfl
  | .array _ elements => cons_relocate (Expr.listSpans_relocate elements)
  | .object _ properties => cons_relocate (Property.listSpans_relocate properties)
  | .function f => f.spans_relocate
  | .classDef c => c.spans_relocate
  | .arrow _ _ _ params body =>
    append_relocate (cons_relocate params.spans_relocate) body.spans_relocate
  | .cast _ inner type => append_relocate (cons_relocate inner.spans_relocate) type.spans_relocate
  | .nonNull _ inner => cons_relocate inner.spans_relocate
  | .other _ _ _ => rfl

theorem Expr.listSpans_relocate : ∀ es : List Expr,
    Expr.listSpans (Expr.listRelocate g es) = (Expr.listSpans es).map (Span.relocate g)
  | [] => rfl
  | e :: rest => append_relocate e.spans_relocate (Expr.listSpans_relocate rest)

theorem Expr.optionSpans_relocate : ∀ e : Option Expr,
    Expr.optionSpans (Expr.optionRelocate g e) = (Expr.optionSpans e).map (Span.relocate g)
  | none => rfl
  | some e => e.spans_relocate

theorem Key.spans_relocate : ∀ k : Key, (k.relocate g).spans = k.spans.map (Span.relocate g)
  | .plain _ => cons_name_relocate rfl
  | .computed e => e.spans_relocate

theorem Property.spans_relocate : ∀ p : Property,
    (p.relocate g).spans = p.spans.map (Span.relocate g)
  | ⟨_, key, value, _⟩ => append_relocate (cons_relocate key.spans_relocate) value.spans_relocate

theorem Property.listSpans_relocate : ∀ ps : List Property,
    Property.listSpans (Property.listRelocate g ps) = (Property.listSpans ps).map (Span.relocate g)
  | [] => rfl
  | p :: rest => append_relocate p.spans_relocate (Property.listSpans_relocate rest)

theorem Pattern.spans_relocate : ∀ p : Pattern,
    (p.relocate g).spans = p.spans.map (Span.relocate g)
  | .identifier _ note => cons_relocate note.spans_relocate
  | .object _ properties rest note =>
    append_relocate (append_relocate (cons_relocate (PatternProperty.listSpans_relocate properties))
      (Binder.optionSpans_relocate rest)) note.spans_relocate
  | .array _ elements rest note =>
    append_relocate (append_relocate (cons_relocate (Pattern.slotSpans_relocate elements))
      (Binder.optionSpans_relocate rest)) note.spans_relocate
  | .fallback _ left right note =>
    append_relocate (append_relocate (cons_relocate left.spans_relocate) right.spans_relocate)
      note.spans_relocate

theorem Pattern.optionSpans_relocate : ∀ p : Option Pattern,
    Pattern.optionSpans (Pattern.optionRelocate g p) = (Pattern.optionSpans p).map (Span.relocate g)
  | none => rfl
  | some p => p.spans_relocate

theorem Pattern.slotSpans_relocate : ∀ slots : List (Option Pattern),
    Pattern.slotSpans (Pattern.slotRelocate g slots) =
      (Pattern.slotSpans slots).map (Span.relocate g)
  | [] => rfl
  | slot :: rest =>
    append_relocate (Pattern.optionSpans_relocate slot) (Pattern.slotSpans_relocate rest)

theorem PatternProperty.spans_relocate : ∀ p : PatternProperty,
    (p.relocate g).spans = p.spans.map (Span.relocate g)
  | ⟨_, key, value, _⟩ => append_relocate (cons_relocate key.spans_relocate) value.spans_relocate

theorem PatternProperty.listSpans_relocate : ∀ ps : List PatternProperty,
    PatternProperty.listSpans (PatternProperty.listRelocate g ps) =
      (PatternProperty.listSpans ps).map (Span.relocate g)
  | [] => rfl
  | p :: rest => append_relocate p.spans_relocate (PatternProperty.listSpans_relocate rest)

theorem Binder.spans_relocate : ∀ b : Binder,
    (b.relocate g).spans = b.spans.map (Span.relocate g)
  | ⟨_, pattern⟩ => cons_relocate pattern.spans_relocate

theorem Binder.listSpans_relocate : ∀ bs : List Binder,
    Binder.listSpans (Binder.listRelocate g bs) = (Binder.listSpans bs).map (Span.relocate g)
  | [] => rfl
  | b :: rest => append_relocate b.spans_relocate (Binder.listSpans_relocate rest)

theorem Binder.optionSpans_relocate : ∀ b : Option Binder,
    Binder.optionSpans (Binder.optionRelocate g b) = (Binder.optionSpans b).map (Span.relocate g)
  | none => rfl
  | some b => b.spans_relocate

theorem Declarator.spans_relocate : ∀ d : Declarator,
    (d.relocate g).spans = d.spans.map (Span.relocate g)
  | ⟨_, pattern, init, _⟩ =>
    append_relocate (cons_relocate pattern.spans_relocate) (Expr.optionSpans_relocate init)

theorem Declarator.listSpans_relocate : ∀ ds : List Declarator,
    Declarator.listSpans (Declarator.listRelocate g ds) =
      (Declarator.listSpans ds).map (Span.relocate g)
  | [] => rfl
  | d :: rest => append_relocate d.spans_relocate (Declarator.listSpans_relocate rest)

theorem VariableDecl.spans_relocate : ∀ d : VariableDecl,
    (d.relocate g).spans = d.spans.map (Span.relocate g)
  | ⟨_, _, declarators, _⟩ => cons_relocate (Declarator.listSpans_relocate declarators)

theorem Params.spans_relocate : ∀ p : Params,
    (p.relocate g).spans = p.spans.map (Span.relocate g)
  | ⟨_, items, rest⟩ =>
    append_relocate (cons_relocate (Binder.listSpans_relocate items))
      (Binder.optionSpans_relocate rest)

theorem Block.spans_relocate : ∀ b : Block, (b.relocate g).spans = b.spans.map (Span.relocate g)
  | ⟨_, body⟩ => cons_relocate (Stmt.listSpans_relocate body)

theorem Block.optionSpans_relocate : ∀ b : Option Block,
    Block.optionSpans (Block.optionRelocate g b) = (Block.optionSpans b).map (Span.relocate g)
  | none => rfl
  | some b => b.spans_relocate

theorem Func.spans_relocate : ∀ f : Func, (f.relocate g).spans = f.spans.map (Span.relocate g)
  | ⟨_, id, _, _, _, params, body⟩ =>
    append_relocate (append_relocate (cons_relocate (identifierSpans_relocate id))
      params.spans_relocate) (Block.optionSpans_relocate body)

theorem Decorator.spans_relocate : ∀ d : Decorator,
    (d.relocate g).spans = d.spans.map (Span.relocate g)
  | ⟨_, expr⟩ => cons_relocate expr.spans_relocate

theorem Decorator.listSpans_relocate : ∀ ds : List Decorator,
    Decorator.listSpans (Decorator.listRelocate g ds) =
      (Decorator.listSpans ds).map (Span.relocate g)
  | [] => rfl
  | d :: rest => append_relocate d.spans_relocate (Decorator.listSpans_relocate rest)

theorem Member.spans_relocate : ∀ m : Member,
    (m.relocate g).spans = m.spans.map (Span.relocate g)
  | .staticBlock block => block.spans_relocate
  | .method _ key value _ => append_relocate (cons_relocate key.spans_relocate) value.spans_relocate
  | .field _ key value _ =>
    append_relocate (cons_relocate key.spans_relocate) (Expr.optionSpans_relocate value)

theorem Member.listSpans_relocate : ∀ ms : List Member,
    Member.listSpans (Member.listRelocate g ms) = (Member.listSpans ms).map (Span.relocate g)
  | [] => rfl
  | m :: rest => append_relocate m.spans_relocate (Member.listSpans_relocate rest)

theorem ClassDef.spans_relocate : ∀ c : ClassDef,
    (c.relocate g).spans = c.spans.map (Span.relocate g)
  | ⟨_, decorators, id, superClass, _, members, _, _⟩ =>
    append_relocate
      (append_relocate (append_relocate (cons_relocate (Decorator.listSpans_relocate decorators))
        (identifierSpans_relocate id)) (Expr.optionSpans_relocate superClass))
      (cons_relocate (Member.listSpans_relocate members))

theorem SwitchCase.spans_relocate : ∀ c : SwitchCase,
    (c.relocate g).spans = c.spans.map (Span.relocate g)
  | ⟨_, test, body⟩ =>
    append_relocate (cons_relocate (Expr.optionSpans_relocate test)) (Stmt.listSpans_relocate body)

theorem SwitchCase.listSpans_relocate : ∀ cs : List SwitchCase,
    SwitchCase.listSpans (SwitchCase.listRelocate g cs) =
      (SwitchCase.listSpans cs).map (Span.relocate g)
  | [] => rfl
  | c :: rest => append_relocate c.spans_relocate (SwitchCase.listSpans_relocate rest)

theorem Handler.spans_relocate : ∀ h : Handler,
    (h.relocate g).spans = h.spans.map (Span.relocate g)
  | ⟨_, param, body⟩ =>
    append_relocate (cons_relocate (Binder.optionSpans_relocate param)) body.spans_relocate

theorem Handler.optionSpans_relocate : ∀ h : Option Handler,
    Handler.optionSpans (Handler.optionRelocate g h) = (Handler.optionSpans h).map (Span.relocate g)
  | none => rfl
  | some h => h.spans_relocate

theorem EnumMember.spans_relocate : ∀ m : EnumMember,
    (m.relocate g).spans = m.spans.map (Span.relocate g)
  | ⟨_, _, init⟩ => cons_relocate (cons_name_relocate (Expr.optionSpans_relocate init))

theorem EnumMember.listSpans_relocate : ∀ ms : List EnumMember,
    EnumMember.listSpans (EnumMember.listRelocate g ms) =
      (EnumMember.listSpans ms).map (Span.relocate g)
  | [] => rfl
  | m :: rest => append_relocate m.spans_relocate (EnumMember.listSpans_relocate rest)

theorem ForHead.spans_relocate : ∀ h : ForHead,
    (h.relocate g).spans = h.spans.map (Span.relocate g)
  | .declaration decl => decl.spans_relocate
  | .expr e => e.spans_relocate

theorem ForHead.optionSpans_relocate : ∀ h : Option ForHead,
    ForHead.optionSpans (ForHead.optionRelocate g h) = (ForHead.optionSpans h).map (Span.relocate g)
  | none => rfl
  | some h => h.spans_relocate

theorem Decl.spans_relocate : ∀ d : Decl, (d.relocate g).spans = d.spans.map (Span.relocate g)
  | .variable decl => decl.spans_relocate
  | .function _ f => f.spans_relocate
  | .classDef c => c.spans_relocate
  | .typeAlias a => a.spans_relocate
  | .interface i => i.spans_relocate
  | .enum _ _ _ members _ _ =>
    cons_relocate (cons_relocate (cons_relocate (EnumMember.listSpans_relocate members)))
  | .namespace head dotted body =>
    append_relocate (append_relocate head.spans_relocate
      (flatMap_relocate NamespaceHead.spans_relocate dotted)) (Block.optionSpans_relocate body)
  | .global _ _ body _ => cons_relocate body.spans_relocate
  | .importEquals decl => decl.spans_relocate

theorem Decl.optionSpans_relocate : ∀ d : Option Decl,
    Decl.optionSpans (Decl.optionRelocate g d) = (Decl.optionSpans d).map (Span.relocate g)
  | none => rfl
  | some d => d.spans_relocate

theorem DefaultValue.spans_relocate : ∀ v : DefaultValue,
    (v.relocate g).spans = v.spans.map (Span.relocate g)
  | .function _ f => f.spans_relocate
  | .classDef c => c.spans_relocate
  | .interface i => i.spans_relocate
  | .expr e => e.spans_relocate

theorem Stmt.spans_relocate : ∀ s : Stmt, (s.relocate g).spans = s.spans.map (Span.relocate g)
  | .block b => b.spans_relocate
  | .breakTo _ label => cons_relocate (identifierSpans_relocate label)
  | .continueTo _ label => cons_relocate (identifierSpans_relocate label)
  | .debugger _ => rfl
  | .empty _ => rfl
  | .doWhile _ body test => append_relocate (cons_relocate body.spans_relocate) test.spans_relocate
  | .whileDo _ test body => append_relocate (cons_relocate test.spans_relocate) body.spans_relocate
  | .expression _ e => cons_relocate e.spans_relocate
  | .forIn _ left right body =>
    append_relocate (append_relocate (cons_relocate left.spans_relocate) right.spans_relocate)
      body.spans_relocate
  | .forOf _ _ left right body =>
    append_relocate (append_relocate (cons_relocate left.spans_relocate) right.spans_relocate)
      body.spans_relocate
  | .forLoop _ init test update body =>
    append_relocate
      (append_relocate (append_relocate (cons_relocate (ForHead.optionSpans_relocate init))
        (Expr.optionSpans_relocate test)) (Expr.optionSpans_relocate update)) body.spans_relocate
  | .ifElse _ test consequent alternate =>
    append_relocate (append_relocate (cons_relocate test.spans_relocate) consequent.spans_relocate)
      (Stmt.optionSpans_relocate alternate)
  | .labeled _ _ body => cons_relocate (cons_relocate body.spans_relocate)
  | .returnWith _ argument => cons_relocate (Expr.optionSpans_relocate argument)
  | .throwWith _ argument => cons_relocate argument.spans_relocate
  | .switch _ discriminant cases =>
    append_relocate (cons_relocate discriminant.spans_relocate)
      (SwitchCase.listSpans_relocate cases)
  | .tryCatch _ block handler finalizer =>
    append_relocate (append_relocate (cons_relocate block.spans_relocate)
      (Handler.optionSpans_relocate handler)) (Block.optionSpans_relocate finalizer)
  | .withObject _ object body =>
    append_relocate (cons_relocate object.spans_relocate) body.spans_relocate
  | .importDecl decl => decl.spans_relocate
  | .exportAll decl => decl.spans_relocate
  | .exportDefault _ value => cons_relocate value.spans_relocate
  | .exportNamed _ declaration specifiers source _ =>
    append_relocate (append_relocate (cons_relocate (Decl.optionSpans_relocate declaration))
      (flatMap_relocate ExportSpecifier.spans_relocate specifiers)) (by cases source <;> rfl)
  | .exportAssignment _ e => cons_relocate e.spans_relocate
  | .namespaceExport _ _ => rfl
  | .decl d => d.spans_relocate

theorem Stmt.optionSpans_relocate : ∀ s : Option Stmt,
    Stmt.optionSpans (Stmt.optionRelocate g s) = (Stmt.optionSpans s).map (Span.relocate g)
  | none => rfl
  | some s => s.spans_relocate

theorem Stmt.listSpans_relocate : ∀ body : List Stmt,
    Stmt.listSpans (Stmt.listRelocate g body) = (Stmt.listSpans body).map (Span.relocate g)
  | [] => rfl
  | s :: rest => append_relocate s.spans_relocate (Stmt.listSpans_relocate rest)

end

end ModuleParts
