import ModuleParts.Source.Grammar

/-! # Reading types

Types stand only in TypeScript, after a colon, in an alias, or in the body of an interface.
-/
namespace ModuleParts.Grammar
open Reading

variable (g : Grammar)

def readTyping? : Reading (Option Annotation) := do
  let start ← here
  if (← typescript) && (← atMark .colon) then
    let _ ← advance
    let type ← g.type
    return some ⟨← spanFrom start, type⟩
  else return none

/-- A member ends like a statement, and a comma may stand for the semicolon. -/
def readSignature : Reading Signature := do
  let start ← here
  let next ← peekAt 1
  let readonly := (← atWord "readonly") &&
    (next.name?.isSome || next.isString || next.isMark .openBracket)
  if readonly then let _ ← advance
  let key ← propertyName
  let optional ← skipMark .question
  let typing ← g.readTyping?
  if !(← skipMark .comma) then semicolon
  return ⟨← spanFrom start, key, optional, readonly, typing⟩

def readSignatures : Reading (List Signature) := do
  expectMark .openBrace
  upTo .closeBrace g.readSignature

def readType : Reading TypeExpr := do
  let start ← here
  if ← atMark .openBrace then
    let members ← g.readSignatures
    return .literal (← spanFrom start) members
  else
    let name ← identifier
    match name.name with
    | "any" => return .any name.span
    | "string" => return .string name.span
    | "number" => return .number name.span
    | _ => return .reference name.span name

def readTypeAlias (start : Nat) (declare : Bool) : Reading TypeAlias := do
  expectWord "type"
  let id ← identifier
  expectMark .assign
  let type ← g.type
  semicolon
  return ⟨← spanFrom start, id, type, declare⟩

def readInterface (start : Nat) (declare : Bool) : Reading Interface := do
  expectWord "interface"
  let id ← identifier
  let bodyStart ← here
  let members ← g.readSignatures
  return ⟨← spanFrom start, id, ← spanFrom bodyStart, members, declare⟩

end ModuleParts.Grammar
