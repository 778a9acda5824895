import ModuleParts.Error
import ModuleParts.Tree.Kind

/-! # Single-binding declarations

Declarations with one declarator, made from a value or cut out of a longer declaration, and default
values turned into expressions.
-/
namespace ModuleParts

/-- The name of a default export that has none of its own. -/
def synthesizedDefault : String := "_default"

/-- The declaration `const name = init`, with one span for all that it adds. -/
def constBinding (span : Span) (name : String) (init : Expr) : VariableDecl where
  span := span
  kind := .const
  declarators := [⟨span, .identifier ⟨span, name⟩ .bare, some init, false⟩]
  declare := false

namespace VariableDecl

/-- The declaration with one of its declarators only, which also gives the span. -/
def single (decl : VariableDecl) (declarator : Declarator) : VariableDecl :=
  ⟨declarator.span, decl.kind, [declarator], decl.declare⟩

/-- One declaration for every declarator. -/
def split (decl : VariableDecl) : List VariableDecl := decl.declarators.map decl.single

end VariableDecl

/-- The value as an expression: declarations of functions and classes become expressions. -/
def DefaultValue.toExpr : DefaultValue → Except CodeError Expr
  | .function _ f => .ok (.function f)
  | .classDef c => .ok (.classDef c)
  | .interface _ =>
    .error (.invalidTree "TSInterfaceDeclaration" (some "not convertible to an expression"))
  | .expr e => .ok e

end ModuleParts
