import ModuleParts.Source.Reader.Pattern

/-! # Reading functions and classes

The words that modify a function or a member are names as well; the token after them decides.
-/
namespace ModuleParts.Grammar
open Reading

variable (g : Grammar)

def readBlock : Reading Block := do
  let start ← here
  expectMark .openBrace
  let body ← upTo .closeBrace g.stmt
  return ⟨← spanFrom start, body⟩

/-- A block inside or outside of a function. -/
def readBody (inFunction : Bool) : Reading Block :=
  withReader (fun scope => { scope with inFunction := inFunction }) g.readBlock

/-- A function from its keyword on. In TypeScript a declared function may end where its body would
start. -/
def readFunction (start : Nat) (declared declare : Bool) : Reading (FunctionForm × Func) := do
  let async ← skipWord "async"
  expectWord "function"
  let generator ← skipMark .times
  let id ← if (← peek).isIdentifier then some <$> identifier else pure none
  let params ← g.readParams
  if declared && (← typescript) && !(← atMark .openBrace) then
    semicolon
    return (.signature, ⟨← spanFrom start, id, generator, async, declare, params, none⟩)
  else
    let body ← g.readBody true
    return (.definition, ⟨← spanFrom start, id, generator, async, declare, params, some body⟩)

/-- Whether a function starts here. -/
def atFunction : Reading Bool := do
  let next ← peekAt 1
  return (← atWord "function") ||
    ((← atWord "async") && next.isWord "function" && !next.startsLine)

/-- Whether the word here modifies a member, for the next token does not end a member's name. -/
def modifies (next : Token) : Bool :=
  !(next.isMark .openParen || next.isMark .assign || next.isMark .semicolon ||
    next.isMark .closeBrace)

def readMethod (start : Nat) (key : Key) (static async generator : Bool) : Reading Member := do
  let valueStart ← here
  let params ← g.readParams
  let body ← g.readBody true
  let value := ⟨← spanFrom valueStart, none, generator, async, false, params, some body⟩
  return .method (← spanFrom start) key value static

def readField (start : Nat) (key : Key) (static : Bool) : Reading Member := do
  let value ← if ← skipMark .assign then some <$> g.expr else pure none
  semicolon
  return .field (← spanFrom start) key value static

def readMember : Reading Member := do
  let start ← here
  let static := (← atWord "static") && modifies (← peekAt 1)
  if static then let _ ← advance
  if static && (← atMark .openBrace) then
    let block ← g.readBody false
    return .staticBlock { block with span := ← spanFrom start }
  let next ← peekAt 1
  let async := (← atWord "async") && modifies next && !next.startsLine
  if async then let _ ← advance
  let generator ← skipMark .times
  let key ← g.readKey
  if async || generator || (← atMark .openParen) then
    g.readMethod start key static async generator
  else g.readField start key static

/-- Members of a class; semicolons between them mean nothing. -/
def readMembers : Reading (List Member) := do
  expectMark .openBrace
  let members ← upTo .closeBrace do
    if ← skipMark .semicolon then return none else some <$> g.readMember
  return members.filterMap id

def readDecorators : Reading (List Decorator) :=
  many do
    let start ← here
    if ← skipMark .atSign then
      let expr ← g.expr
      return some ⟨← spanFrom start, expr⟩
    else return none

/-- A class from its keyword, or `abstract`, on. -/
def readClass (start : Nat) (decorators : List Decorator) (declare : Bool) : Reading ClassDef := do
  let abstract ← if ← typescript then skipWord "abstract" else pure false
  expectWord "class"
  let id ← if (← peek).isIdentifier then some <$> identifier else pure none
  let superClass ← if ← skipWord "extends" then some <$> g.expr else pure none
  let bodyStart ← here
  let members ← g.readMembers
  return ⟨← spanFrom start, decorators, id, superClass, ← spanFrom bodyStart, members, abstract,
    declare⟩

/-- Whether a class without decorators starts here. -/
def atClass : Reading Bool := do
  let next ← peekAt 1
  return (← atWord "class") ||
    ((← typescript) && (← atWord "abstract") && next.isWord "class" && !next.startsLine)

end ModuleParts.Grammar
