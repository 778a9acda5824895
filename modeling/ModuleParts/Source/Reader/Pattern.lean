import ModuleParts.Source.Reader.Type

/-! # Reading patterns

Patterns, parameters and the declarators of variables. A rest element comes last.
-/
namespace ModuleParts

/-- Where a pattern ends that is followed by this. -/
def Ascription.stretch (note : Ascription) (span : Span) : Span :=
  match note.annotation with
  | none => span
  | some typing => span.cover typing.span

/-- The pattern together with what follows it. A type is part of its extent. -/
def Pattern.withNote (note : Ascription) : Pattern → Pattern
  | .identifier id _ => .identifier { id with span := note.stretch id.span } note
  | .object span properties rest _ => .object (note.stretch span) properties rest note
  | .array span elements rest _ => .array (note.stretch span) elements rest note
  | .fallback span left right _ => .fallback (note.stretch span) left right note

def Pattern.isIdentifier : Pattern → Bool
  | .identifier .. => true
  | _ => false

/-- One place of a list that may end in a rest element. -/
inductive Slot (α : Type) where
  | item (item : α)
  | rest (binder : Binder)

namespace Grammar
open Reading

variable (g : Grammar) {α : Type}

/-- The items of a list and its rest element. -/
def readSlots : List (Slot α) → Reading (List α × Option Binder)
  | [] => return ([], none)
  | [.rest binder] => return ([], some binder)
  | .rest _ :: _ => fail
  | .item item :: slots => do
    let (items, rest) ← readSlots slots
    return (item :: items, rest)

/-- A key of a property or class member. -/
def readKey : Reading Key := do
  if ← skipMark .openBracket then
    let expr ← g.expr
    expectMark .closeBracket
    return .computed expr
  else return .plain (← propertyName)

/-- A default value after a pattern that starts here. -/
def readFallback (start : Nat) (pattern : Pattern) : Reading Pattern := do
  if ← skipMark .assign then
    let right ← g.expr
    return .fallback (← spanFrom start) pattern right .bare
  else return pattern

def readElement : Reading Pattern := do
  let start ← here
  g.readFallback start (← g.pattern)

def readRest : Reading Binder := do
  let start ← here
  expectMark .ellipsis
  let pattern ← g.pattern
  return ⟨← spanFrom start, pattern⟩

def readPatternProperty : Reading (Slot PatternProperty) := do
  if ← atMark .ellipsis then return .rest (← g.readRest)
  let start ← here
  let isName := (← peek).isIdentifier
  let key ← g.readKey
  if ← skipMark .colon then
    let value ← g.readElement
    return .item ⟨← spanFrom start, key, value, false⟩
  else
    match isName, key with
    | true, .plain (.identifier id) =>
      let value ← g.readFallback start (.identifier id .bare)
      return .item ⟨← spanFrom start, key, value, true⟩
    | _, _ => fail

/-- An array element; a comma in its place leaves a hole. -/
def readPatternSlot : Reading (Slot (Option Pattern)) := do
  if ← atMark .ellipsis then return .rest (← g.readRest)
  if ← atMark .comma then return .item none
  return .item (some (← g.readElement))

def readPattern : Reading Pattern := do
  let start ← here
  if ← skipMark .openBrace then
    let (properties, rest) ← readSlots (← listUpTo .closeBrace g.readPatternProperty)
    return .object (← spanFrom start) properties rest .bare
  else if ← skipMark .openBracket then
    let (elements, rest) ← readSlots (← listUpTo .closeBracket g.readPatternSlot)
    return .array (← spanFrom start) elements rest .bare
  else return .identifier (← identifier) .bare

def readParam : Reading (Slot Binder) := do
  let start ← here
  if ← atMark .ellipsis then
    let ⟨_, pattern⟩ ← g.readRest
    let typing ← g.readTyping?
    return .rest ⟨← spanFrom start, pattern.withNote ⟨typing, false⟩⟩
  else
    let target ← g.pattern
    let optional ← if ← typescript then skipMark .question else pure false
    let typing ← g.readTyping?
    let pattern ← g.readFallback start (target.withNote ⟨typing, optional⟩)
    return .item ⟨← spanFrom start, pattern⟩

def readParams : Reading Params := do
  let start ← here
  expectMark .openParen
  let (items, rest) ← readSlots (← listUpTo .closeParen g.readParam)
  return ⟨← spanFrom start, items, rest⟩

def readDeclarator : Reading Declarator := do
  let start ← here
  let target ← g.pattern
  let definite ← if ← typescript then skipMark .bang else pure false
  let typing ← g.readTyping?
  let init ← if ← skipMark .assign then some <$> g.expr else pure none
  return ⟨← spanFrom start, target.withNote ⟨typing, false⟩, init, definite⟩

def readDeclarators : Reading (List Declarator) := do
  let first ← g.readDeclarator
  let rest ← many do
    if ← skipMark .comma then some <$> g.readDeclarator else return none
  return first :: rest

end Grammar

end ModuleParts
