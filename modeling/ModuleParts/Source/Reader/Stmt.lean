import ModuleParts.Source.Reader.Export
import ModuleParts.Source.Reader.Expr

/-! # Reading statements

A statement is told by its first token, a label or a declaration by the second as well.
-/
namespace ModuleParts.Grammar
open Reading

variable (g : Grammar)

def readParenthesized : Reading Expr := do
  expectMark .openParen
  let expr ← g.expr
  expectMark .closeParen
  return expr

def readIf (start : Nat) : Reading Stmt := do
  let test ← g.readParenthesized
  let consequent ← g.stmt
  let alternate ← if ← skipWord "else" then some <$> g.stmt else pure none
  return .ifElse (← spanFrom start) test consequent alternate

def readWhile (start : Nat) : Reading Stmt := do
  let test ← g.readParenthesized
  let body ← g.stmt
  return .whileDo (← spanFrom start) test body

/-- After the condition a semicolon may be missing even on the same line. -/
def readDo (start : Nat) : Reading Stmt := do
  let body ← g.stmt
  expectWord "while"
  let test ← g.readParenthesized
  let _ ← skipMark .semicolon
  return .doWhile (← spanFrom start) body test

def readWith (start : Nat) : Reading Stmt := do
  let object ← g.readParenthesized
  let body ← g.stmt
  return .withObject (← spanFrom start) object body

def readForHead : Reading ForHead := do
  let start ← here
  match ← variableKind? with
  | some (kind, words) => return .declaration (← g.readVariableHead start kind words false)
  | none => return .expr (← g.expr)

/-- The tail of a loop head: an expression, unless this mark comes at once. -/
def readUnless (mark : Mark) : Reading (Option Expr) := do
  let expr ← if ← atMark mark then pure none else some <$> g.expr
  expectMark mark
  return expr

def readForLoop (start : Nat) (init : Option ForHead) : Reading Stmt := do
  match init with
  | some (.declaration decl) => checkInits decl
  | _ => pure ()
  expectMark .semicolon
  let test ← g.readUnless .semicolon
  let update ← g.readUnless .closeParen
  let body ← g.stmt
  return .forLoop (← spanFrom start) init test update body

def readForEach (start : Nat) (await : Bool) (left : ForHead) : Reading Stmt := do
  let isOf ← atWord "of"
  let _ ← advance
  let right ← g.expr
  expectMark .closeParen
  let body ← g.stmt
  if isOf then return .forOf (← spanFrom start) await left right body
  else return .forIn (← spanFrom start) left right body

def readFor (start : Nat) : Reading Stmt := do
  let await ← skipWord "await"
  expectMark .openParen
  if ← atMark .semicolon then
    if await then fail else g.readForLoop start none
  else
    let head ← g.readForHead
    if (← atWord "of") || (!await && (← atWord "in")) then g.readForEach start await head
    else if await then fail
    else g.readForLoop start (some head)

/-- Whether a clause of a switch, or its end, comes next. -/
def atCaseEnd : Reading Bool := do
  return (← atWord "case") || (← atWord "default") || (← atMark .closeBrace)

def readCase : Reading SwitchCase := do
  let start ← here
  let test ← if ← skipWord "default" then pure none else do
    expectWord "case"
    some <$> g.expr
  expectMark .colon
  let body ← many do if ← atCaseEnd then return none else some <$> g.stmt
  return ⟨← spanFrom start, test, body⟩

def readSwitch (start : Nat) : Reading Stmt := do
  let discriminant ← g.readParenthesized
  expectMark .openBrace
  let cases ← upTo .closeBrace g.readCase
  return .switch (← spanFrom start) discriminant cases

def readHandler? : Reading (Option Handler) := do
  let start ← here
  if ← skipWord "catch" then
    let param ← if ← skipMark .openParen then do
        let paramStart ← here
        let target ← g.pattern
        let typing ← g.readTyping?
        let span ← spanFrom paramStart
        expectMark .closeParen
        pure (some ⟨span, target.withNote ⟨typing, false⟩⟩)
      else pure none
    let body ← g.readBlock
    return some ⟨← spanFrom start, param, body⟩
  else return none

def readTry (start : Nat) : Reading Stmt := do
  let block ← g.readBlock
  let handler ← g.readHandler?
  let finalizer ← if ← skipWord "finally" then some <$> g.readBlock else pure none
  if handler.isNone && finalizer.isNone then fail
  return .tryCatch (← spanFrom start) block handler finalizer

/-- The label of a jump, on the same line. -/
def readLabel? : Reading (Option Identifier) := do
  if !(← atStatementEnd) then some <$> identifier else return none

def readJump (start : Nat) (jump : Span → Option Identifier → Stmt) : Reading Stmt := do
  let label ← readLabel?
  semicolon
  return jump (← spanFrom start) label

/-- A return stands inside a function; anywhere else it is a flaw. -/
def readReturn (start : Nat) : Reading Stmt := do
  if !(← read).inFunction then flaw (.returnOutsideFunction start)
  let argument ← if ← atStatementEnd then pure none else some <$> g.expr
  semicolon
  return .returnWith (← spanFrom start) argument

def readThrow (start : Nat) : Reading Stmt := do
  if ← atStatementEnd then fail
  let argument ← g.expr
  semicolon
  return .throwWith (← spanFrom start) argument

def readLabeled (start : Nat) : Reading Stmt := do
  let label ← identifier
  expectMark .colon
  let body ← g.stmt
  return .labeled (← spanFrom start) label body

def readExpression (start : Nat) : Reading Stmt := do
  let expr ← g.expr
  semicolon
  return .expression (← spanFrom start) expr

/-- Decorators come before a class or before the export of one. -/
def readDecorated (start : Nat) : Reading Stmt := do
  let decorators ← g.readDecorators
  if ← atWord "export" then g.readExport decorators
  else
    let next ← peekAt 1
    let declare := (← typescript) && (← atWord "declare") && !next.startsLine
    if declare then let _ ← advance
    return .decl (.classDef (← g.readClass start decorators declare))

/-- The reader of the statement that a keyword starts. -/
def keywordReader? (keyword : String) : Option (Nat → Reading Stmt) :=
  match keyword with
  | "if" => some g.readIf
  | "while" => some g.readWhile
  | "do" => some g.readDo
  | "for" => some g.readFor
  | "switch" => some g.readSwitch
  | "try" => some g.readTry
  | "with" => some g.readWith
  | "throw" => some g.readThrow
  | "return" => some g.readReturn
  | "break" => some fun start => readJump start .breakTo
  | "continue" => some fun start => readJump start .continueTo
  | "debugger" => some fun start => do
    semicolon
    return .debugger (← spanFrom start)
  | _ => none

/-- A statement that starts with a word. -/
def readWordStmt (start : Nat) (word : String) : Reading Stmt := do
  match g.keywordReader? word with
  | some readRest =>
    let _ ← advance
    readRest start
  | none =>
    if word == "import" then
      match ← readImport start with
      | .inl decl => return .importDecl decl
      | .inr decl => return .decl (.importEquals decl)
    else if word == "export" then g.readExport []
    else
      match ← g.readDecl? with
      | some decl =>
        checkFunctionName decl
        return .decl decl
      | none => g.readExpression start

def readStmt : Reading Stmt := do
  let token ← peek
  let start := token.span.start
  match token.kind with
  | .mark .openBrace => return .block (← g.readBlock)
  | .mark .semicolon => return .empty (← advance).span
  | .mark .atSign => g.readDecorated start
  | .word word escaped =>
    if (← peekAt 1).isMark .colon then g.readLabeled start
    else if escaped then g.readExpression start
    else g.readWordStmt start word
  | _ => g.readExpression start

end ModuleParts.Grammar
