import ModuleParts.Source.Reader.Decl

/-! # Reading exports

Decorators may stand before the keyword; they then belong to the class, but not to its extent.
-/
namespace ModuleParts

/-- Whether an export of the declaration exports a type only. -/
def Decl.isTypeExport : Decl → Bool
  | .variable decl => decl.declare
  | .function _ f => f.declare
  | .classDef c => c.declare
  | .typeAlias _ => true
  | .interface _ => true
  | .enum _ _ _ _ _ declare => declare
  | .namespace head _ _ => head.declare
  | .global _ _ _ declare => declare
  | .importEquals decl => decl.typeOnly

namespace Grammar
open Reading

variable (g : Grammar)

/-- What follows `export default`. Only an expression is ended by a semicolon. -/
def readDefault (decorators : List Decorator) : Reading DefaultValue := do
  let start ← here
  let next ← peekAt 1
  let own ← g.readDecorators
  if ← atClass then return .classDef (← g.readClass start (decorators ++ own) false)
  else if !decorators.isEmpty || !own.isEmpty then fail
  else if ← atFunction then
    let (form, f) ← g.readFunction start true false
    return .function form f
  else if (← typescript) && (← atWord "interface") && next.isIdentifier && !next.startsLine then
    return .interface (← g.readInterface start false)
  else
    let value ← g.expr
    return .expr value

def readExportDefault (start : Nat) (decorators : List Decorator) : Reading Stmt := do
  let value ← g.readDefault decorators
  match value with
  | .expr _ => semicolon
  | _ => pure ()
  return .exportDefault (← spanFrom start) value

def readExportDecl (start : Nat) (decorators : List Decorator) : Reading Stmt := do
  let declStart ← here
  let own ← g.readDecorators
  let decl ← if decorators.isEmpty && own.isEmpty then do
      let some decl ← g.readDecl? | fail
      pure decl
    else pure (.classDef (← g.readClass declStart (decorators ++ own) false))
  checkFunctionName decl
  return .exportNamed (← spanFrom start) (some decl) [] none decl.isTypeExport

def readExportList (start : Nat) (typeOnly : Bool) : Reading Stmt := do
  if ← atMark .times then return .exportAll (← readExportAll start typeOnly)
  else
    let (specifiers, source) ← readExportClauses
    return .exportNamed (← spanFrom start) none specifiers source typeOnly

/-- The exports that only TypeScript has. -/
def readTypescriptExport? (start : Nat) : Reading (Option Stmt) := do
  let next ← peekAt 1
  if !(← typescript) then return none
  else if ← skipMark .assign then
    let expr ← g.expr
    semicolon
    return some (.exportAssignment (← spanFrom start) expr)
  else if (← atWord "as") && next.isWord "namespace" then
    let _ ← advance
    let _ ← advance
    let id ← anyName
    semicolon
    return some (.namespaceExport (← spanFrom start) id)
  else if (← atWord "type") && (next.isMark .openBrace || next.isMark .times) then
    let _ ← advance
    return some (← readExportList start true)
  else if ← atWord "import" then
    match ← readImport (← here) with
    | .inl _ => fail
    | .inr decl =>
      return some (.exportNamed (← spanFrom start) (some (.importEquals decl)) [] none
        decl.typeOnly)
  else return none

/-- An export from its keyword on, with the decorators that came before the keyword. -/
def readExport (decorators : List Decorator) : Reading Stmt := do
  let start ← here
  expectWord "export"
  if (← atMark .times) || (← atMark .openBrace) then readExportList start false
  else if ← skipWord "default" then g.readExportDefault start decorators
  else
    match ← g.readTypescriptExport? start with
    | some stmt => return stmt
    | none => g.readExportDecl start decorators

end Grammar

end ModuleParts
