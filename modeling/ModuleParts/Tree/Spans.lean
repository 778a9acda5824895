import ModuleParts.Tree.Kind

/-! # Spans of all nodes below a node

Every node of a tree counts once with its own span: identifiers, keys, parameters, bodies and
clauses as well as statements and expressions. The keyword of a global declaration is no node.
-/
namespace ModuleParts

namespace ModuleName

def spans : ModuleName → List Span
  | .name id => [id.span]
  | .reference id => [id.span]
  | .string literal => [literal.span]

end ModuleName

namespace ImportSpecifier

def spans : ImportSpecifier → List Span
  | .named span imported binding _ => span :: imported.spans ++ [binding.span]
  | .default span binding => [span, binding.span]
  | .namespace span binding => [span, binding.span]

end ImportSpecifier

namespace ImportDecl

def spans (decl : ImportDecl) : List Span :=
  decl.span :: (decl.specifiers.getD []).flatMap ImportSpecifier.spans ++ [decl.source.span]

end ImportDecl

namespace ExportSpecifier

def spans (specifier : ExportSpecifier) : List Span :=
  specifier.span :: specifier.localName.spans ++ specifier.exported.spans

end ExportSpecifier

namespace ExportAll

def spans (decl : ExportAll) : List Span :=
  decl.span :: decl.exported.toList.flatMap ModuleName.spans ++ [decl.source.span]

end ExportAll

namespace ModuleReference

def spans : ModuleReference → List Span
  | .external span source => [span, source.span]
  | .entity id => [id.span]

end ModuleReference

namespace ImportEquals

def spans (decl : ImportEquals) : List Span := decl.span :: decl.id.span :: decl.reference.spans

end ImportEquals

namespace Directive

def spans (directive : Directive) : List Span := [directive.span, directive.literal.span]

end Directive

namespace NamespaceHead

def spans (head : NamespaceHead) : List Span := [head.span, head.name.span]

end NamespaceHead

mutual

def TypeExpr.spans : TypeExpr → List Span
  | .any span => [span]
  | .string span => [span]
  | .number span => [span]
  | .reference span name => [span, name.span]
  | .literal span members => span :: Signature.listSpans members
  | .other span _ nodes => span :: nodes

def Signature.spans : Signature → List Span
  | ⟨span, key, _, _, annotation⟩ => span :: key.span :: Annotation.optionSpans annotation

def Signature.listSpans : List Signature → List Span
  | [] => []
  | s :: rest => s.spans ++ Signature.listSpans rest

def Annotation.spans : Annotation → List Span
  | ⟨span, type⟩ => span :: type.spans

def Annotation.optionSpans : Option Annotation → List Span
  | none => []
  | some a => a.spans

end

def Ascription.spans (note : Ascription) : List Span := Annotation.optionSpans note.annotation

def TypeAlias.spans (a : TypeAlias) : List Span :=
  a.span :: a.id.span :: a.type.spans

def Interface.spans (interface : Interface) : List Span :=
  interface.span :: interface.id.span :: interface.bodySpan :: Signature.listSpans interface.members

def identifierSpans (id : Option Identifier) : List Span := id.toList.map Identifier.span

mutual

def Expr.spans : Expr → List Span
  | .identifier id => [id.span]
  | .number literal => [literal.span]
  | .string literal => [literal.span]
  | .boolean span _ => [span]
  | .null span => [span]
  | .this span => [span]
  | .paren span inner => span :: inner.spans
  | .binary span left _ right => span :: left.spans ++ right.spans
  | .call span callee arguments => span :: callee.spans ++ Expr.listSpans arguments
  | .member span object property => span :: object.spans ++ [property.span]
  | .array span elements => span :: Expr.listSpans elements
  | .object span properties => span :: Property.listSpans properties
  | .function f => f.spans
  | .classDef c => c.spans
  | .arrow span _ _ params body => span :: params.spans ++ body.spans
  | .cast span inner type => span :: inner.spans ++ type.spans
  | .nonNull span inner => span :: inner.spans
  | .other span _ nodes => span :: nodes

def Expr.listSpans : List Expr → List Span
  | [] => []
  | e :: rest => e.spans ++ Expr.listSpans rest

def Expr.optionSpans : Option Expr → List Span
  | none => []
  | some e => e.spans

def Key.spans : Key → List Span
  | .plain name => [name.span]
  | .computed e => e.spans

def Property.spans : Property → List Span
  | ⟨span, key, value, _⟩ => span :: key.spans ++ value.spans

def Property.listSpans : List Property → List Span
  | [] => []
  | p :: rest => p.spans ++ Property.listSpans rest

def Pattern.spans : Pattern → List Span
  | .identifier id note => id.span :: note.spans
  | .object span properties rest note =>
    span :: PatternProperty.listSpans properties ++ Binder.optionSpans rest ++ note.spans
  | .array span elements rest note =>
    span :: Pattern.slotSpans elements ++ Binder.optionSpans rest ++ note.spans
  | .fallback span left right note => span :: left.spans ++ right.spans ++ note.spans

def Pattern.optionSpans : Option Pattern → List Span
  | none => []
  | some p => p.spans

def Pattern.slotSpans : List (Option Pattern) → List Span
  | [] => []
  | slot :: rest => Pattern.optionSpans slot ++ Pattern.slotSpans rest

def PatternProperty.spans : PatternProperty → List Span
  | ⟨span, key, value, _⟩ => span :: key.spans ++ value.spans

def PatternProperty.listSpans : List PatternProperty → List Span
  | [] => []
  | p :: rest => p.spans ++ PatternProperty.listSpans rest

def Binder.spans : Binder → List Span
  | ⟨span, pattern⟩ => span :: pattern.spans

def Binder.listSpans : List Binder → List Span
  | [] => []
  | b :: rest => b.spans ++ Binder.listSpans rest

def Binder.optionSpans : Option Binder → List Span
  | none => []
  | some b => b.spans

def Declarator.spans : Declarator → List Span
  | ⟨span, pattern, init, _⟩ => span :: pattern.spans ++ Expr.optionSpans init

def Declarator.listSpans : List Declarator → List Span
  | [] => []
  | d :: rest => d.spans ++ Declarator.listSpans rest

def VariableDecl.spans : VariableDecl → List Span
  | ⟨span, _, declarators, _⟩ => span :: Declarator.listSpans declarators

def Params.spans : Params → List Span
  | ⟨span, items, rest⟩ => span :: Binder.listSpans items ++ Binder.optionSpans rest

def Block.spans : Block → List Span
  | ⟨span, body⟩ => span :: Stmt.listSpans body

def Block.optionSpans : Option Block → List Span
  | none => []
  | some b => b.spans

def Func.spans : Func → List Span
  | ⟨span, id, _, _, _, params, body⟩ =>
    span :: identifierSpans id ++ params.spans ++ Block.optionSpans body

def Decorator.spans : Decorator → List Span
  | ⟨span, expr⟩ => span :: expr.spans

def Decorator.listSpans : List Decorator → List Span
  | [] => []
  | d :: rest => d.spans ++ Decorator.listSpans rest

def Member.spans : Member → List Span
  | .staticBlock block => block.spans
  | .method span key value _ => span :: key.spans ++ value.spans
  | .field span key value _ => span :: key.spans ++ Expr.optionSpans value

def Member.listSpans : List Member → List Span
  | [] => []
  | m :: rest => m.spans ++ Member.listSpans rest

def ClassDef.spans : ClassDef → List Span
  | ⟨span, decorators, id, superClass, bodySpan, members, _, _⟩ =>
    span :: Decorator.listSpans decorators ++ identifierSpans id ++ Expr.optionSpans superClass ++
      bodySpan :: Member.listSpans members

def SwitchCase.spans : SwitchCase → List Span
  | ⟨span, test, body⟩ => span :: Expr.optionSpans test ++ Stmt.listSpans body

def SwitchCase.listSpans : List SwitchCase → List Span
  | [] => []
  | c :: rest => c.spans ++ SwitchCase.listSpans rest

def Handler.spans : Handler → List Span
  | ⟨span, param, body⟩ => span :: Binder.optionSpans param ++ body.spans

def Handler.optionSpans : Option Handler → List Span
  | none => []
  | some h => h.spans

def EnumMember.spans : EnumMember → List Span
  | ⟨span, name, init⟩ => span :: name.span :: Expr.optionSpans init

def EnumMember.listSpans : List EnumMember → List Span
  | [] => []
  | m :: rest => m.spans ++ EnumMember.listSpans rest

def ForHead.spans : ForHead → List Span
  | .declaration decl => decl.spans
  | .expr e => e.spans

def ForHead.optionSpans : Option ForHead → List Span
  | none => []
  | some h => h.spans

def Decl.spans : Decl → List Span
  | .variable decl => decl.spans
  | .function _ f => f.spans
  | .classDef c => c.spans
  | .typeAlias a => a.spans
  | .interface interface => interface.spans
  | .enum span id bodySpan members _ _ =>
    span :: id.span :: bodySpan :: EnumMember.listSpans members
  | .namespace head dotted body =>
    head.spans ++ dotted.flatMap NamespaceHead.spans ++ Block.optionSpans body
  | .global span _ body _ => span :: body.spans
  | .importEquals decl => decl.spans

def Decl.optionSpans : Option Decl → List Span
  | none => []
  | some d => d.spans

def DefaultValue.spans : DefaultValue → List Span
  | .function _ f => f.spans
  | .classDef c => c.spans
  | .interface interface => interface.spans
  | .expr e => e.spans

def Stmt.spans : Stmt → List Span
  | .block b => b.spans
  | .breakTo span label => span :: identifierSpans label
  | .continueTo span label => span :: identifierSpans label
  | .debugger span => [span]
  | .empty span => [span]
  | .doWhile span body test => span :: body.spans ++ test.spans
  | .whileDo span test body => span :: test.spans ++ body.spans
  | .expression span e => span :: e.spans
  | .forIn span left right body => span :: left.spans ++ right.spans ++ body.spans
  | .forOf span _ left right body => span :: left.spans ++ right.spans ++ body.spans
  | .forLoop span init test update body =>
    span :: ForHead.optionSpans init ++ Expr.optionSpans test ++ Expr.optionSpans update ++
      body.spans
  | .ifElse span test consequent alternate =>
    span :: test.spans ++ consequent.spans ++ Stmt.optionSpans alternate
  | .labeled span label body => span :: label.span :: body.spans
  | .returnWith span argument => span :: Expr.optionSpans argument
  | .throwWith span argument => span :: argument.spans
  | .switch span discriminant cases => span :: discriminant.spans ++ SwitchCase.listSpans cases
  | .tryCatch span block handler finalizer =>
    span :: block.spans ++ Handler.optionSpans handler ++ Block.optionSpans finalizer
  | .withObject span object body => span :: object.spans ++ body.spans
  | .importDecl decl => decl.spans
  | .exportAll decl => decl.spans
  | .exportDefault span value => span :: value.spans
  | .exportNamed span declaration specifiers source _ =>
    span :: Decl.optionSpans declaration ++ specifiers.flatMap ExportSpecifier.spans ++
      source.toList.map StringLiteral.span
  | .exportAssignment span e => span :: e.spans
  | .namespaceExport span id => [span, id.span]
  | .decl d => d.spans

def Stmt.optionSpans : Option Stmt → List Span
  | none => []
  | some s => s.spans

def Stmt.listSpans : List Stmt → List Span
  | [] => []
  | s :: rest => s.spans ++ Stmt.listSpans rest

end

end ModuleParts
