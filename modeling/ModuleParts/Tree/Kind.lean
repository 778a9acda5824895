import ModuleParts.Tree.Basic

/-! # Own span and kind of a node

The span that a node carries itself, and the tag that names its kind in messages.
-/
namespace ModuleParts

namespace PropertyName

def span : PropertyName → Span
  | .identifier id => id.span
  | .string literal => literal.span
  | .number literal => literal.span

end PropertyName

namespace Expr

def span : Expr → Span
  | .identifier id => id.span
  | .number literal => literal.span
  | .string literal => literal.span
  | .boolean span _ => span
  | .null span => span
  | .this span => span
  | .paren span _ => span
  | .binary span _ _ _ => span
  | .call span _ _ => span
  | .member span _ _ => span
  | .array span _ => span
  | .object span _ => span
  | .function f => f.span
  | .classDef c => c.span
  | .arrow span _ _ _ _ => span
  | .cast span _ _ => span
  | .nonNull span _ => span
  | .other span _ _ => span

/-- The expression inside any number of parentheses. -/
def withoutParens : Expr → Expr
  | .paren _ inner => inner.withoutParens
  | e => e

end Expr

namespace Decl

def span : Decl → Span
  | .variable decl => decl.span
  | .function _ f => f.span
  | .classDef c => c.span
  | .typeAlias a => a.span
  | .interface i => i.span
  | .enum span _ _ _ _ _ => span
  | .namespace head _ _ => head.span
  | .global span _ _ _ => span
  | .importEquals decl => decl.span

/-- The tag of an exported declaration. A global declaration has no tag of its own. -/
def kind : Decl → String
  | .variable _ => "VariableDeclaration"
  | .function _ _ => "FunctionDeclaration"
  | .classDef _ => "ClassDeclaration"
  | .typeAlias _ => "TSTypeAliasDeclaration"
  | .interface _ => "TSInterfaceDeclaration"
  | .enum .. => "TSEnumDeclaration"
  | .namespace .. => "TSModuleDeclaration"
  | .global .. => "Declaration"
  | .importEquals _ => "TSImportEqualsDeclaration"

end Decl

namespace DefaultValue

def span : DefaultValue → Span
  | .function _ f => f.span
  | .classDef c => c.span
  | .interface i => i.span
  | .expr e => e.span

end DefaultValue

namespace Stmt

def span : Stmt → Span
  | .block b => b.span
  | .breakTo span _ => span
  | .continueTo span _ => span
  | .debugger span => span
  | .empty span => span
  | .doWhile span _ _ => span
  | .whileDo span _ _ => span
  | .expression span _ => span
  | .forIn span _ _ _ => span
  | .forOf span _ _ _ _ => span
  | .forLoop span _ _ _ _ => span
  | .ifElse span _ _ _ => span
  | .labeled span _ _ => span
  | .returnWith span _ => span
  | .throwWith span _ => span
  | .switch span _ _ => span
  | .tryCatch span _ _ _ => span
  | .withObject span _ _ => span
  | .importDecl d => d.span
  | .exportAll d => d.span
  | .exportDefault span _ => span
  | .exportNamed span _ _ _ _ => span
  | .exportAssignment span _ => span
  | .namespaceExport span _ => span
  | .decl d => d.span

/-- The tag of a statement. A global declaration has no tag of its own. -/
def kind : Stmt → String
  | .block _ => "BlockStatement"
  | .breakTo _ _ => "BreakStatement"
  | .continueTo _ _ => "ContinueStatement"
  | .debugger _ => "DebuggerStatement"
  | .empty _ => "EmptyStatement"
  | .doWhile .. => "DoWhileStatement"
  | .whileDo .. => "WhileStatement"
  | .expression .. => "ExpressionStatement"
  | .forIn .. => "ForInStatement"
  | .forOf .. => "ForOfStatement"
  | .forLoop .. => "ForStatement"
  | .ifElse .. => "IfStatement"
  | .labeled .. => "LabeledStatement"
  | .returnWith .. => "ReturnStatement"
  | .throwWith .. => "ThrowStatement"
  | .switch .. => "SwitchStatement"
  | .tryCatch .. => "TryStatement"
  | .withObject .. => "WithStatement"
  | .importDecl _ => "ImportDeclaration"
  | .exportAll _ => "ExportAllDeclaration"
  | .exportDefault .. => "ExportDefaultDeclaration"
  | .exportNamed .. => "ExportNamedDeclaration"
  | .exportAssignment .. => "TSExportAssignment"
  | .namespaceExport .. => "TSNamespaceExportDeclaration"
  | .decl (.global ..) => "Statement"
  | .decl d => d.kind

end Stmt

end ModuleParts
