import ModuleParts.Source.Cursor
import ModuleParts.Tree.Kind

/-! # Grammar, one level at a time

Syntax nests without bound, so a reader of one level takes the readers of the level below as a
record. A record of level `n` reads what nests at most `n` deep.
-/
namespace ModuleParts

structure Grammar where
  expr : Reading Expr
  /-- A pattern without default value and annotation. -/
  pattern : Reading Pattern
  type : Reading TypeExpr
  /-- A statement, or a declaration in the place of one. -/
  stmt : Reading Stmt

/-- Level zero reads nothing. -/
def Grammar.bottom : Grammar := ⟨.fail, .fail, .fail, .fail⟩

namespace Reading

/-- A written-out name: a word, a string or a number. -/
def propertyName : Reading PropertyName := do
  let token ← peek
  match token.kind with
  | .string value =>
    let _ ← advance
    return .string ⟨token.span, value⟩
  | .number value =>
    let _ ← advance
    return .number ⟨token.span, value⟩
  | _ => return .identifier (← anyName)

end Reading

end ModuleParts
