import ModuleParts.Tree.Type

/-! # Syntax trees

Expressions, patterns, declarations and statements of ECMAScript modules and their TypeScript
forms. Every node carries its span; nothing ties a span to those of the node's parts. Expressions of
which nothing is asked but their extent are kept as text.
-/
namespace ModuleParts

inductive BinaryOp where
  | add
  | subtract
  | multiply
deriving DecidableEq, Repr, Inhabited

inductive VariableKind where
  | var
  | let
  | const
  | using
  | awaitUsing
deriving DecidableEq, Repr, Inhabited

def VariableKind.keyword : VariableKind → String
  | .var => "var"
  | .let => "let"
  | .const => "const"
  | .using => "using"
  | .awaitUsing => "await using"

/-- Whether a function was declared with a body or as a signature. -/
inductive FunctionForm where
  | definition
  | signature
deriving DecidableEq, Repr, Inhabited

mutual

inductive Expr where
  | identifier (id : Identifier)
  | number (literal : NumberLiteral)
  | string (literal : StringLiteral)
  | boolean (span : Span) (value : Bool)
  | null (span : Span)
  | this (span : Span)
  | paren (span : Span) (inner : Expr)
  | binary (span : Span) (left : Expr) (op : BinaryOp) (right : Expr)
  | call (span : Span) (callee : Expr) (arguments : List Expr)
  | member (span : Span) (object : Expr) (property : Identifier)
  | array (span : Span) (elements : List Expr)
  | object (span : Span) (properties : List Property)
  | function (function : Func)
  | classDef (definition : ClassDef)
  | arrow (span : Span) (concise async : Bool) (params : Params) (body : Block)
  | cast (span : Span) (inner : Expr) (type : TypeExpr)
  | nonNull (span : Span) (inner : Expr)
  /-- An expression of any other form: its text as printed and the spans of the nodes in it. -/
  | other (span : Span) (text : String) (nodes : List Span)

inductive Key where
  | plain (name : PropertyName)
  | computed (expr : Expr)

structure Property where
  span : Span
  key : Key
  value : Expr
  shorthand : Bool

inductive Pattern where
  | identifier (id : Identifier) (note : Ascription)
  | object (span : Span) (properties : List PatternProperty) (rest : Option Binder)
      (note : Ascription)
  | array (span : Span) (elements : List (Option Pattern)) (rest : Option Binder)
      (note : Ascription)
  | fallback (span : Span) (left : Pattern) (right : Expr) (note : Ascription)

structure PatternProperty where
  span : Span
  key : Key
  value : Pattern
  shorthand : Bool

/-- A pattern in a place of its own: a parameter, a rest element, a catch parameter. -/
structure Binder where
  span : Span
  pattern : Pattern

structure Declarator where
  span : Span
  pattern : Pattern
  init : Option Expr
  definite : Bool

structure VariableDecl where
  span : Span
  kind : VariableKind
  declarators : List Declarator
  declare : Bool

structure Params where
  span : Span
  items : List Binder
  rest : Option Binder

/-- Statements in braces. -/
structure Block where
  span : Span
  body : List Stmt

structure Func where
  span : Span
  id : Option Identifier
  generator : Bool
  async : Bool
  declare : Bool
  params : Params
  body : Option Block

structure Decorator where
  span : Span
  expr : Expr

inductive Member where
  | staticBlock (block : Block)
  | method (span : Span) (key : Key) (value : Func) (static : Bool)
  | field (span : Span) (key : Key) (value : Option Expr) (static : Bool)

structure ClassDef where
  span : Span
  decorators : List Decorator
  id : Option Identifier
  superClass : Option Expr
  bodySpan : Span
  members : List Member
  abstract : Bool
  declare : Bool

structure SwitchCase where
  span : Span
  test : Option Expr
  body : List Stmt

structure Handler where
  span : Span
  param : Option Binder
  body : Block

structure EnumMember where
  span : Span
  name : PropertyName
  init : Option Expr

/-- What stands first in the head of a loop. -/
inductive ForHead where
  | declaration (decl : VariableDecl)
  | expr (expr : Expr)

inductive Decl where
  | variable (decl : VariableDecl)
  | function (form : FunctionForm) (function : Func)
  | classDef (definition : ClassDef)
  | typeAlias (definition : TypeAlias)
  | interface (interface : Interface)
  | enum (span : Span) (id : Identifier) (bodySpan : Span) (members : List EnumMember)
      (const declare : Bool)
  | namespace (head : NamespaceHead) (dotted : List NamespaceHead) (body : Option Block)
  | global (span globalSpan : Span) (body : Block) (declare : Bool)
  | importEquals (decl : ImportEquals)

/-- What `export default` may hold. -/
inductive DefaultValue where
  | function (form : FunctionForm) (function : Func)
  | classDef (definition : ClassDef)
  | interface (interface : Interface)
  | expr (expr : Expr)

inductive Stmt where
  | block (block : Block)
  | breakTo (span : Span) (label : Option Identifier)
  | continueTo (span : Span) (label : Option Identifier)
  | debugger (span : Span)
  | empty (span : Span)
  | doWhile (span : Span) (body : Stmt) (test : Expr)
  | whileDo (span : Span) (test : Expr) (body : Stmt)
  | expression (span : Span) (expr : Expr)
  | forIn (span : Span) (left : ForHead) (right : Expr) (body : Stmt)
  | forOf (span : Span) (await : Bool) (left : ForHead) (right : Expr) (body : Stmt)
  | forLoop (span : Span) (init : Option ForHead) (test update : Option Expr) (body : Stmt)
  | ifElse (span : Span) (test : Expr) (consequent : Stmt) (alternate : Option Stmt)
  | labeled (span : Span) (label : Identifier) (body : Stmt)
  | returnWith (span : Span) (argument : Option Expr)
  | throwWith (span : Span) (argument : Expr)
  | switch (span : Span) (discriminant : Expr) (cases : List SwitchCase)
  | tryCatch (span : Span) (block : Block) (handler : Option Handler) (finalizer : Option Block)
  | withObject (span : Span) (object : Expr) (body : Stmt)
  | importDecl (decl : ImportDecl)
  | exportAll (decl : ExportAll)
  | exportDefault (span : Span) (value : DefaultValue)
  | exportNamed (span : Span) (declaration : Option Decl) (specifiers : List ExportSpecifier)
      (source : Option StringLiteral) (typeOnly : Bool)
  | exportAssignment (span : Span) (expr : Expr)
  | namespaceExport (span : Span) (id : Identifier)
  | decl (decl : Decl)

end

end ModuleParts
