import ModuleParts.Tree.Spans

/-! # Trees with other offsets

A tree keeps its shape, its names and its values when every offset in it is sent through a function.
The keyword of a global declaration is moved with the rest, although it is no node.
-/
namespace ModuleParts

variable (g : Nat → Nat)

/-! ## Leaves and clauses -/

def Span.relocate (span : Span) : Span := ⟨g span.start, g span.stop⟩

def Identifier.relocate (id : Identifier) : Identifier := ⟨id.span.relocate g, id.name⟩

def StringLiteral.relocate (literal : StringLiteral) : StringLiteral :=
  ⟨literal.span.relocate g, literal.value⟩

def NumberLiteral.relocate (literal : NumberLiteral) : NumberLiteral :=
  ⟨literal.span.relocate g, literal.value⟩

def Directive.relocate (directive : Directive) : Directive :=
  ⟨directive.span.relocate g, directive.literal.relocate g⟩

def ModuleName.relocate : ModuleName → ModuleName
  | .name id => .name (id.relocate g)
  | .reference id => .reference (id.relocate g)
  | .string literal => .string (literal.relocate g)

def PropertyName.relocate : PropertyName → PropertyName
  | .identifier id => .identifier (id.relocate g)
  | .string literal => .string (literal.relocate g)
  | .number literal => .number (literal.relocate g)

def ImportSpecifier.relocate : ImportSpecifier → ImportSpecifier
  | .named span imported binding typeOnly =>
    .named (span.relocate g) (imported.relocate g) (binding.relocate g) typeOnly
  | .default span binding => .default (span.relocate g) (binding.relocate g)
  | .namespace span binding => .namespace (span.relocate g) (binding.relocate g)

def ImportDecl.relocate (decl : ImportDecl) : ImportDecl where
  span := decl.span.relocate g
  specifiers := decl.specifiers.map (List.map (ImportSpecifier.relocate g))
  source := decl.source.relocate g
  phase := decl.phase
  typeOnly := decl.typeOnly

def ExportSpecifier.relocate (specifier : ExportSpecifier) : ExportSpecifier where
  span := specifier.span.relocate g
  localName := specifier.localName.relocate g
  exported := specifier.exported.relocate g
  typeOnly := specifier.typeOnly

def ExportAll.relocate (decl : ExportAll) : ExportAll where
  span := decl.span.relocate g
  exported := decl.exported.map (ModuleName.relocate g)
  source := decl.source.relocate g
  typeOnly := decl.typeOnly

def ModuleReference.relocate : ModuleReference → ModuleReference
  | .external span source => .external (span.relocate g) (source.relocate g)
  | .entity id => .entity (id.relocate g)

def ImportEquals.relocate (decl : ImportEquals) : ImportEquals where
  span := decl.span.relocate g
  id := decl.id.relocate g
  reference := decl.reference.relocate g
  typeOnly := decl.typeOnly

def NamespaceHead.relocate (head : NamespaceHead) : NamespaceHead where
  span := head.span.relocate g
  name := head.name.relocate g
  keyword := head.keyword
  declare := head.declare

/-! ## Types -/

mutual

def TypeExpr.relocate : TypeExpr → TypeExpr
  | .any span => .any (span.relocate g)
  | .string span => .string (span.relocate g)
  | .number span => .number (span.relocate g)
  | .reference span name => .reference (span.relocate g) (name.relocate g)
  | .literal span members => .literal (span.relocate g) (Signature.listRelocate members)
  | .other span text nodes => .other (span.relocate g) text (nodes.map (Span.relocate g))

def Signature.relocate : Signature → Signature
  | ⟨span, key, optional, readonly, annotation⟩ =>
    ⟨span.relocate g, key.relocate g, optional, readonly, Annotation.optionRelocate annotation⟩

def Signature.listRelocate : List Signature → List Signature
  | [] => []
  | s :: rest => s.relocate :: Signature.listRelocate rest

def Annotation.relocate : Annotation → Annotation
  | ⟨span, type⟩ => ⟨span.relocate g, type.relocate⟩

def Annotation.optionRelocate : Option Annotation → Option Annotation
  | none => none
  | some a => some a.relocate

end

def Ascription.relocate (note : Ascription) : Ascription where
  annotation := Annotation.optionRelocate g note.annotation
  optional := note.optional

def TypeAlias.relocate (a : TypeAlias) : TypeAlias where
  span := a.span.relocate g
  id := a.id.relocate g
  type := a.type.relocate g
  declare := a.declare

def Interface.relocate (interface : Interface) : Interface where
  span := interface.span.relocate g
  id := interface.id.relocate g
  bodySpan := interface.bodySpan.relocate g
  members := Signature.listRelocate g interface.members
  declare := interface.declare

/-! ## Expressions, patterns, declarations, statements -/

mutual

def Expr.relocate : Expr → Expr
  | .identifier id => .identifier (id.relocate g)
  | .number literal => .number (literal.relocate g)
  | .string literal => .string (literal.relocate g)
  | .boolean span value => .boolean (span.relocate g) value
  | .null span => .null (span.relocate g)
  | .this span => .this (span.relocate g)
  | .paren span inner => .paren (span.relocate g) inner.relocate
  | .binary span left op right => .binary (span.relocate g) left.relocate op right.relocate
  | .call span callee arguments =>
    .call (span.relocate g) callee.relocate (Expr.listRelocate arguments)
  | .member span object property => .member (span.relocate g) object.relocate (property.relocate g)
  | .array span elements => .array (span.relocate g) (Expr.listRelocate elements)
  | .object span properties => .object (span.relocate g) (Property.listRelocate properties)
  | .function f => .function f.relocate
  | .classDef c => .classDef c.relocate
  | .arrow span concise async params body =>
    .arrow (span.relocate g) concise async params.relocate body.relocate
  | .cast span inner type => .cast (span.relocate g) inner.relocate (type.relocate g)
  | .nonNull span inner => .nonNull (span.relocate g) inner.relocate
  | .other span text nodes => .other (span.relocate g) text (nodes.map (Span.relocate g))

def Expr.listRelocate : List Expr → List Expr
  | [] => []
  | e :: rest => e.relocate :: Expr.listRelocate rest

def Expr.optionRelocate : Option Expr → Option Expr
  | none => none
  | some e => some e.relocate

def Key.relocate : Key → Key
  | .plain name => .plain (name.relocate g)
  | .computed e => .computed e.relocate

def Property.relocate : Property → Property
  | ⟨span, key, value, shorthand⟩ => ⟨span.relocate g, key.relocate, value.relocate, shorthand⟩

def Property.listRelocate : List Property → List Property
  | [] => []
  | p :: rest => p.relocate :: Property.listRelocate rest

def Pattern.relocate : Pattern → Pattern
  | .identifier id note => .identifier (id.relocate g) (note.relocate g)
  | .object span properties rest note =>
    .object (span.relocate g) (PatternProperty.listRelocate properties) (Binder.optionRelocate rest)
      (note.relocate g)
  | .array span elements rest note =>
    .array (span.relocate g) (Pattern.slotRelocate elements) (Binder.optionRelocate rest)
      (note.relocate g)
  | .fallback span left right note =>
    .fallback (span.relocate g) left.relocate right.relocate (note.relocate g)

def Pattern.optionRelocate : Option Pattern → Option Pattern
  | none => none
  | some p => some p.relocate

def Pattern.slotRelocate : List (Option Pattern) → List (Option Pattern)
  | [] => []
  | slot :: rest => Pattern.optionRelocate slot :: Pattern.slotRelocate rest

def PatternProperty.relocate : PatternProperty → PatternProperty
  | ⟨span, key, value, shorthand⟩ => ⟨span.relocate g, key.relocate, value.relocate, shorthand⟩

def PatternProperty.listRelocate : List PatternProperty → List PatternProperty
  | [] => []
  | p :: rest => p.relocate :: PatternProperty.listRelocate rest

def Binder.relocate : Binder → Binder
  | ⟨span, pattern⟩ => ⟨span.relocate g, pattern.relocate⟩

def Binder.listRelocate : List Binder → List Binder
  | [] => []
  | b :: rest => b.relocate :: Binder.listRelocate rest

def Binder.optionRelocate : Option Binder → Option Binder
  | none => none
  | some b => some b.relocate

def Declarator.relocate : Declarator → Declarator
  | ⟨span, pattern, init, definite⟩ =>
    ⟨span.relocate g, pattern.relocate, Expr.optionRelocate init, definite⟩

def Declarator.listRelocate : List Declarator → List Declarator
  | [] => []
  | d :: rest => d.relocate :: Declarator.listRelocate rest

def VariableDecl.relocate : VariableDecl → VariableDecl
  | ⟨span, kind, declarators, declare⟩ =>
    ⟨span.relocate g, kind, Declarator.listRelocate declarators, declare⟩

def Params.relocate : Params → Params
  | ⟨span, items, rest⟩ =>
    ⟨span.relocate g, Binder.listRelocate items, Binder.optionRelocate rest⟩

def Block.relocate : Block → Block
  | ⟨span, body⟩ => ⟨span.relocate g, Stmt.listRelocate body⟩

def Block.optionRelocate : Option Block → Option Block
  | none => none
  | some b => some b.relocate

def Func.relocate : Func → Func
  | ⟨span, id, generator, async, declare, params, body⟩ =>
    ⟨span.relocate g, id.map (Identifier.relocate g), generator, async, declare, params.relocate,
      Block.optionRelocate body⟩

def Decorator.relocate : Decorator → Decorator
  | ⟨span, expr⟩ => ⟨span.relocate g, expr.relocate⟩

def Decorator.listRelocate : List Decorator → List Decorator
  | [] => []
  | d :: rest => d.relocate :: Decorator.listRelocate rest

def Member.relocate : Member → Member
  | .staticBlock block => .staticBlock block.relocate
  | .method span key value static =>
    .method (span.relocate g) key.relocate value.relocate static
  | .field span key value static =>
    .field (span.relocate g) key.relocate (Expr.optionRelocate value) static

def Member.listRelocate : List Member → List Member
  | [] => []
  | m :: rest => m.relocate :: Member.listRelocate rest

def ClassDef.relocate : ClassDef → ClassDef
  | ⟨span, decorators, id, superClass, bodySpan, members, abstract, declare⟩ =>
    ⟨span.relocate g, Decorator.listRelocate decorators, id.map (Identifier.relocate g),
      Expr.optionRelocate superClass, bodySpan.relocate g, Member.listRelocate members, abstract,
      declare⟩

def SwitchCase.relocate : SwitchCase → SwitchCase
  | ⟨span, test, body⟩ => ⟨span.relocate g, Expr.optionRelocate test, Stmt.listRelocate body⟩

def SwitchCase.listRelocate : List SwitchCase → List SwitchCase
  | [] => []
  | c :: rest => c.relocate :: SwitchCase.listRelocate rest

def Handler.relocate : Handler → Handler
  | ⟨span, param, body⟩ => ⟨span.relocate g, Binder.optionRelocate param, body.relocate⟩

def Handler.optionRelocate : Option Handler → Option Handler
  | none => none
  | some h => some h.relocate

def EnumMember.relocate : EnumMember → EnumMember
  | ⟨span, name, init⟩ => ⟨span.relocate g, name.relocate g, Expr.optionRelocate init⟩

def EnumMember.listRelocate : List EnumMember → List EnumMember
  | [] => []
  | m :: rest => m.relocate :: EnumMember.listRelocate rest

def ForHead.relocate : ForHead → ForHead
  | .declaration decl => .declaration decl.relocate
  | .expr e => .expr e.relocate

def ForHead.optionRelocate : Option ForHead → Option ForHead
  | none => none
  | some h => some h.relocate

def Decl.relocate : Decl → Decl
  | .variable decl => .variable decl.relocate
  | .function form f => .function form f.relocate
  | .classDef c => .classDef c.relocate
  | .typeAlias a => .typeAlias (a.relocate g)
  | .interface interface => .interface (interface.relocate g)
  | .enum span id bodySpan members const declare =>
    .enum (span.relocate g) (id.relocate g) (bodySpan.relocate g) (EnumMember.listRelocate members)
      const declare
  | .namespace head dotted body =>
    .namespace (head.relocate g) (dotted.map (NamespaceHead.relocate g)) (Block.optionRelocate body)
  | .global span globalSpan body declare =>
    .global (span.relocate g) (globalSpan.relocate g) body.relocate declare
  | .importEquals decl => .importEquals (decl.relocate g)

def Decl.optionRelocate : Option Decl → Option Decl
  | none => none
  | some d => some d.relocate

def DefaultValue.relocate : DefaultValue → DefaultValue
  | .function form f => .function form f.relocate
  | .classDef c => .classDef c.relocate
  | .interface interface => .interface (interface.relocate g)
  | .expr e => .expr e.relocate

def Stmt.relocate : Stmt → Stmt
  | .block b => .block b.relocate
  | .breakTo span label => .breakTo (span.relocate g) (label.map (Identifier.relocate g))
  | .continueTo span label => .continueTo (span.relocate g) (label.map (Identifier.relocate g))
  | .debugger span => .debugger (span.relocate g)
  | .empty span => .empty (span.relocate g)
  | .doWhile span body test => .doWhile (span.relocate g) body.relocate test.relocate
  | .whileDo span test body => .whileDo (span.relocate g) test.relocate body.relocate
  | .expression span e => .expression (span.relocate g) e.relocate
  | .forIn span left right body =>
    .forIn (span.relocate g) left.relocate right.relocate body.relocate
  | .forOf span await left right body =>
    .forOf (span.relocate g) await left.relocate right.relocate body.relocate
  | .forLoop span init test update body =>
    .forLoop (span.relocate g) (ForHead.optionRelocate init) (Expr.optionRelocate test)
      (Expr.optionRelocate update) body.relocate
  | .ifElse span test consequent alternate =>
    .ifElse (span.relocate g) test.relocate consequent.relocate (Stmt.optionRelocate alternate)
  | .labeled span label body => .labeled (span.relocate g) (label.relocate g) body.relocate
  | .returnWith span argument => .returnWith (span.relocate g) (Expr.optionRelocate argument)
  | .throwWith span argument => .throwWith (span.relocate g) argument.relocate
  | .switch span discriminant cases =>
    .switch (span.relocate g) discriminant.relocate (SwitchCase.listRelocate cases)
  | .tryCatch span block handler finalizer =>
    .tryCatch (span.relocate g) block.relocate (Handler.optionRelocate handler)
      (Block.optionRelocate finalizer)
  | .withObject span object body => .withObject (span.relocate g) object.relocate body.relocate
  | .importDecl decl => .importDecl (decl.relocate g)
  | .exportAll decl => .exportAll (decl.relocate g)
  | .exportDefault span value => .exportDefault (span.relocate g) value.relocate
  | .exportNamed span declaration specifiers source typeOnly =>
    .exportNamed (span.relocate g) (Decl.optionRelocate declaration)
      (specifiers.map (ExportSpecifier.relocate g)) (source.map (StringLiteral.relocate g)) typeOnly
  | .exportAssignment span e => .exportAssignment (span.relocate g) e.relocate
  | .namespaceExport span id => .namespaceExport (span.relocate g) (id.relocate g)
  | .decl d => .decl d.relocate

def Stmt.optionRelocate : Option Stmt → Option Stmt
  | none => none
  | some s => some s.relocate

def Stmt.listRelocate : List Stmt → List Stmt
  | [] => []
  | s :: rest => s.relocate :: Stmt.listRelocate rest

end

end ModuleParts
