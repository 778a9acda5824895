import ModuleParts.Source.Reader.Function
import ModuleParts.Source.Reader.Module

/-! # Reading declarations

TypeScript's keywords for declarations are ordinary names elsewhere. They start a declaration only
where the word after them stands on the same line.
-/
namespace ModuleParts.Grammar
open Reading

variable (g : Grammar)

/-- The keyword of a variable declaration that starts here, and the number of words in it. -/
def variableKind? : Reading (Option (VariableKind × Nat)) := do
  let next ← peekAt 1
  let third ← peekAt 2
  if ← atWord "var" then return some (.var, 1)
  else if ← atWord "const" then
    return if (← typescript) && next.isWord "enum" then none else some (.const, 1)
  else if ← atWord "let" then
    return if next.isIdentifier || next.isMark .openBrace || next.isMark .openBracket
      then some (.let, 1) else none
  else if ← atWord "using" then
    return if next.isIdentifier && !next.startsLine && !next.isWord "of"
      then some (.using, 1) else none
  else if ← atWord "await" then
    return if next.isWord "using" && !next.startsLine && third.isIdentifier && !third.startsLine
      then some (.awaitUsing, 2) else none
  else return none

/-- A declarator needs an initializer if it takes a value apart or its variable never changes. -/
def needsInit (kind : VariableKind) (declarator : Declarator) : Bool :=
  declarator.init.isNone &&
    (!declarator.pattern.isIdentifier || kind == .const || kind == .using || kind == .awaitUsing)

def checkInits (decl : VariableDecl) : Reading Unit := do
  if !(← read).ambient then
    decl.declarators.forM fun declarator => do
      if needsInit decl.kind declarator then flaw (.missingInitializer declarator.span.stop)

/-- The keyword and the declarators of a variable declaration, without a semicolon. -/
def readVariableHead (start : Nat) (kind : VariableKind) (words : Nat) (declare : Bool) :
    Reading VariableDecl := do
  let _ ← (List.range words).mapM fun _ => advance
  let declarators ← g.readDeclarators
  return ⟨← spanFrom start, kind, declarators, declare⟩

def readVariable (start : Nat) (kind : VariableKind) (words : Nat) (declare : Bool) :
    Reading VariableDecl := do
  let decl ← g.readVariableHead start kind words declare
  checkInits decl
  semicolon
  return { decl with span := ← spanFrom start }

def readEnumMember : Reading EnumMember := do
  let start ← here
  let name ← propertyName
  let init ← if ← skipMark .assign then some <$> g.expr else pure none
  return ⟨← spanFrom start, name, init⟩

def readEnum (start : Nat) (declare : Bool) : Reading Decl := do
  let const ← skipWord "const"
  expectWord "enum"
  let id ← identifier
  let bodyStart ← here
  expectMark .openBrace
  let members ← listUpTo .closeBrace g.readEnumMember
  return .enum (← spanFrom start) id (← spanFrom bodyStart) members const declare

/-- The names after the first of a dotted namespace. -/
def readDottedNames : Reading (List Identifier) :=
  many do if ← skipMark .dot then some <$> identifier else return none

/-- A namespace or module. Only one that is named by a string may lack a body. -/
def readNamespace (start : Nat) (declare : Bool) : Reading Decl := do
  let keyword := if ← atWord "module" then NamespaceKeyword.module else .namespace
  let _ ← advance
  if (← peek).isString then
    let name ← stringLiteral
    let body ← if ← atMark .openBrace then some <$> g.readBody false else pure none
    if body.isNone then semicolon
    return .namespace ⟨← spanFrom start, .string name, keyword, declare⟩ [] body
  else
    let id ← identifier
    let names ← readDottedNames
    let body ← g.readBody false
    let inner := names.map fun name =>
      ⟨⟨name.span.start, body.span.stop⟩, .identifier name, keyword, false⟩
    return .namespace ⟨← spanFrom start, .identifier id, keyword, declare⟩ inner (some body)

def readGlobal (start : Nat) (declare : Bool) : Reading Decl := do
  let word ← advance
  let body ← g.readBody false
  return .global (← spanFrom start) word.span body declare

/-- A TypeScript declaration that starts with a word of its own. -/
def readTypescriptDecl? (start : Nat) (declare : Bool) : Reading (Option Decl) := do
  let next ← peekAt 1
  let named := next.isIdentifier && !next.startsLine
  if !(← typescript) then return none
  else if (← atWord "type") && named then
    return some (.typeAlias (← g.readTypeAlias start declare))
  else if (← atWord "interface") && named then
    return some (.interface (← g.readInterface start declare))
  else if (← atWord "enum") || ((← atWord "const") && next.isWord "enum") then
    return some (← g.readEnum start declare)
  else if (← atWord "namespace") && named then return some (← g.readNamespace start declare)
  else if (← atWord "module") && (named || (next.isString && !next.startsLine)) then
    return some (← g.readNamespace start declare)
  else if (← atWord "global") && next.isMark .openBrace then
    return some (← g.readGlobal start declare)
  else return none

/-- A declaration, if one starts here, whose first word may already be behind. -/
def readBareDecl? (start : Nat) (declare : Bool) : Reading (Option Decl) := do
  match ← variableKind? with
  | some (kind, words) => return some (.variable (← g.readVariable start kind words declare))
  | none =>
    if ← atFunction then
      let (form, f) ← g.readFunction start true declare
      return some (.function form f)
    else if ← atClass then return some (.classDef (← g.readClass start [] declare))
    else g.readTypescriptDecl? start declare

/-- Words that may follow `declare`. -/
def declarableWords : List String :=
  ["var", "let", "const", "function", "async", "class", "abstract", "enum", "type", "interface",
    "namespace", "module", "global"]

def readDecl? : Reading (Option Decl) := do
  let start ← here
  let next ← peekAt 1
  if (← typescript) && (← atWord "declare") && !next.startsLine &&
      declarableWords.any next.isWord then
    let _ ← advance
    let decl? ← withReader (fun scope => { scope with ambient := true })
      (g.readBareDecl? start true)
    if decl?.isNone then fail
    return decl?
  else g.readBareDecl? start false

/-- A function declaration has a name; one without is a flaw. -/
def checkFunctionName (decl : Decl) : Reading Unit := do
  match decl with
  | .function _ f => if f.id.isNone then flaw (.missingFunctionName f.span.start)
  | _ => return ()

end ModuleParts.Grammar
