import ModuleParts.Source.Reader.Function

/-! # Reading expressions

Calls, member accesses and assertions bind strongest, then products, then sums, then casts. All of
them group from the left.
-/
namespace ModuleParts

/-- What follows the parenthesis that closes the one open at this depth. -/
def afterParens : Nat → List Token → List Token
  | _, [] => []
  | depth, token :: rest =>
    if token.isMark .openParen then afterParens (depth + 1) rest
    else if token.isMark .closeParen then
      if depth ≤ 1 then rest else afterParens (depth - 1) rest
    else afterParens depth rest

/-- Whether the parameters of an arrow function and its arrow come next. -/
def isArrowHead (tokens : List Token) : Bool :=
  let isArrow := fun (token : Token) => token.isMark .arrow && !token.startsLine
  match tokens with
  | [] => false
  | token :: rest =>
    if token.isMark .openParen then ((afterParens 0 tokens).head?).any isArrow
    else token.isIdentifier && rest.head?.any isArrow

namespace Grammar
open Reading

variable (g : Grammar)

/-- Whether an arrow function starts here, and whether an `async` of its own comes first. -/
def arrowAhead? : Reading (Option Bool) := do
  let tokens := (← get).ahead
  if isArrowHead tokens then return some false
  else if (← atWord "async") && !(← peekAt 1).startsLine && isArrowHead tokens.tail then
    return some true
  else return none

def readArrow (async : Bool) : Reading Expr := do
  let start ← here
  if async then let _ ← advance
  let params ← if ← atMark .openParen then g.readParams else do
    let id ← identifier
    pure ⟨id.span, [⟨id.span, .identifier id .bare⟩], none⟩
  expectMark .arrow
  if ← atMark .openBrace then
    let body ← g.readBody true
    return .arrow (← spanFrom start) false async params body
  else
    let value ← g.expr
    return .arrow (← spanFrom start) true async params ⟨value.span, [.expression value.span value]⟩

def readProperty : Reading Property := do
  let start ← here
  let isName := (← peek).isIdentifier
  let key ← g.readKey
  if ← skipMark .colon then
    let value ← g.expr
    return ⟨← spanFrom start, key, value, false⟩
  else
    match isName, key with
    | true, .plain (.identifier id) => return ⟨id.span, key, .identifier id, true⟩
    | _, _ => fail

def readWord : Reading Expr := do
  let token ← peek
  if ← atFunction then
    let (_, f) ← g.readFunction token.span.start false false
    return .function f
  else if token.isWord "class" then return .classDef (← g.readClass token.span.start [] false)
  else if token.isWord "true" || token.isWord "false" then
    let _ ← advance
    return .boolean token.span (token.isWord "true")
  else if ← skipWord "null" then return .null token.span
  else if ← skipWord "this" then return .this token.span
  else return .identifier (← identifier)

def readPrimary : Reading Expr := do
  let token ← peek
  let start := token.span.start
  match token.kind with
  | .number value =>
    let _ ← advance
    return .number ⟨token.span, value⟩
  | .string value =>
    let _ ← advance
    return .string ⟨token.span, value⟩
  | .word _ _ => g.readWord
  | .mark .openParen =>
    let _ ← advance
    let inner ← g.expr
    expectMark .closeParen
    return .paren (← spanFrom start) inner
  | .mark .openBracket =>
    let _ ← advance
    let elements ← listUpTo .closeBracket g.expr
    return .array (← spanFrom start) elements
  | .mark .openBrace =>
    let _ ← advance
    let properties ← listUpTo .closeBrace g.readProperty
    return .object (← spanFrom start) properties
  | .mark .atSign =>
    let decorators ← g.readDecorators
    return .classDef (← g.readClass start decorators false)
  | _ => fail

def readSuffix? (e : Expr) : Reading (Option Expr) := do
  let token ← peek
  if ← skipMark .openParen then
    let arguments ← listUpTo .closeParen g.expr
    return some (.call (← spanFrom e.span.start) e arguments)
  else if ← skipMark .dot then
    let property ← anyName
    return some (.member (← spanFrom e.span.start) e property)
  else if (← typescript) && token.isMark .bang && !token.startsLine then
    let _ ← advance
    return some (.nonNull (← spanFrom e.span.start) e)
  else return none

def readOperand : Reading Expr := fromLeft g.readPrimary g.readSuffix?

def readTimes? (e : Expr) : Reading (Option Expr) := do
  if ← skipMark .times then
    let right ← g.readOperand
    return some (.binary (← spanFrom e.span.start) e .multiply right)
  else return none

def readProduct : Reading Expr := fromLeft g.readOperand g.readTimes?

def readTerm? (e : Expr) : Reading (Option Expr) := do
  let token ← peek
  if ← skipMark .plus then
    let right ← g.readProduct
    return some (.binary (← spanFrom e.span.start) e .add right)
  else if ← skipMark .minus then
    let right ← g.readProduct
    return some (.binary (← spanFrom e.span.start) e .subtract right)
  else if (← typescript) && token.isWord "as" && !token.startsLine then
    let _ ← advance
    let type ← g.type
    return some (.cast (← spanFrom e.span.start) e type)
  else g.readTimes? e

def readExpr : Reading Expr := do
  match ← arrowAhead? with
  | some async => g.readArrow async
  | none => fromLeft g.readOperand g.readTerm?

end Grammar

end ModuleParts
