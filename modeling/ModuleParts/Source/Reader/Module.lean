import ModuleParts.Source.Grammar

/-! # Reading import and export clauses

In TypeScript a specifier may start with `type`. That word is also a name, as is `as`, so what it
means depends on the words after it.
-/
namespace ModuleParts.Reading

/-- A specifier as it is written. -/
structure Clause where
  span : Span
  name : ModuleName
  rename : Option ModuleName
  typeOnly : Bool

def moduleName : Reading ModuleName := do
  if (← peek).isString then return .string (← stringLiteral) else return .name (← anyName)

def readAlias? : Reading (Option ModuleName) := do
  if ← skipWord "as" then some <$> moduleName else return none

def atClauseEnd : Reading Bool := do return (← atMark .comma) || (← atMark .closeBrace)

/-- What follows the word `type` at the start of a specifier: the name, the alias, and whether the
word marks a type. -/
def readAfterType (word : ModuleName) : Reading (ModuleName × Option ModuleName × Bool) := do
  if ← atClauseEnd then return (word, none, false)
  else if !(← atWord "as") then
    let name ← moduleName
    return (name, ← readAlias?, true)
  else
    let first ← moduleName
    if ← atClauseEnd then return (first, none, true)
    else
      let isAs ← atWord "as"
      let second ← moduleName
      if !isAs || (← atClauseEnd) then return (word, some second, false)
      else return (first, some (← moduleName), true)

def readClause : Reading Clause := do
  let start ← here
  let isType := (← typescript) && (← atWord "type")
  let name ← moduleName
  let (name, rename, typeOnly) ← if isType then readAfterType name else do
    pure (name, ← readAlias?, false)
  return ⟨← spanFrom start, name, rename, typeOnly⟩

/-- The attributes of an imported module, which are read and forgotten. -/
def skipAttributes : Reading Unit := do
  if (← atWord "with") && (← peekAt 1).isMark .openBrace then
    let _ ← advance
    let _ ← advance
    let _ ← listUpTo .closeBrace do
      let _ ← propertyName
      expectMark .colon
      stringLiteral

def readSource : Reading StringLiteral := do
  let source ← stringLiteral
  skipAttributes
  return source

/-- The binding of a named specifier: its alias, or its own name where that is an identifier. -/
def readBinding (clause : Clause) : Reading Identifier :=
  match clause.rename.getD clause.name with
  | .name id => if reservedWords.contains id.name then fail else return id
  | _ => fail

def readImportClause : Reading ImportSpecifier := do
  let clause ← readClause
  return .named clause.span clause.name (← readBinding clause) clause.typeOnly

def readNamespaceSpecifier : Reading ImportSpecifier := do
  let start ← here
  expectMark .times
  expectWord "as"
  let binding ← identifier
  return .namespace (← spanFrom start) binding

def readImportSpecifiers : Reading (List ImportSpecifier) := do
  if ← atMark .times then return [← readNamespaceSpecifier]
  else
    expectMark .openBrace
    listUpTo .closeBrace readImportClause

/-- A default specifier and what may follow it after a comma, or what stands without one. -/
def readBindings : Reading (List ImportSpecifier) := do
  if (← peek).isIdentifier then
    let binding ← identifier
    let rest ← if ← skipMark .comma then readImportSpecifiers else pure []
    return .default binding.span binding :: rest
  else readImportSpecifiers

def readModuleReference : Reading ModuleReference := do
  let start ← here
  if (← atWord "require") && (← peekAt 1).isMark .openParen then
    let _ ← advance
    let _ ← advance
    let source ← stringLiteral
    expectMark .closeParen
    return .external (← spanFrom start) source
  else return .entity (← identifier)

/-- The rest of `import a = …`, from its name on. -/
def readImportEquals (start : Nat) (typeOnly : Bool) : Reading ImportEquals := do
  let id ← identifier
  expectMark .assign
  let reference ← readModuleReference
  semicolon
  return ⟨← spanFrom start, id, reference, typeOnly⟩

/-- Whether the word `type` after `import` marks a type, given the two tokens behind it. -/
def marksTypeImport (first second : Token) : Bool :=
  first.isMark .times || first.isMark .openBrace ||
    (first.isIdentifier &&
      (!first.isWord "from" || second.isWord "from" || second.isMark .assign))

/-- Whether the word `source` after `import` names a phase, given the two tokens behind it. -/
def marksSourcePhase (first second : Token) : Bool :=
  first.isIdentifier && (!first.isWord "from" || second.isWord "from")

def readPhase? : Reading (Option ImportPhase) := do
  let first ← peekAt 1
  if (← atWord "source") && marksSourcePhase first (← peekAt 2) then
    let _ ← advance
    return some .source
  else if (← atWord "defer") && first.isMark .times then
    let _ ← advance
    return some .defer
  else return none

/-- An import from its keyword on. TypeScript has a second form with an equals sign. -/
def readImport (start : Nat) : Reading (ImportDecl ⊕ ImportEquals) := do
  expectWord "import"
  if (← peek).isString then
    let source ← readSource
    semicolon
    return .inl ⟨← spanFrom start, none, source, none, false⟩
  else
    let typeOnly := (← typescript) && (← atWord "type") &&
      marksTypeImport (← peekAt 1) (← peekAt 2)
    if typeOnly then let _ ← advance
    if (← typescript) && (← peek).isIdentifier && (← peekAt 1).isMark .assign then
      return .inr (← readImportEquals start typeOnly)
    else
      let phase ← readPhase?
      let specifiers ← readBindings
      expectWord "from"
      let source ← readSource
      semicolon
      return .inl ⟨← spanFrom start, some specifiers, source, phase, typeOnly⟩

def readExportAll (start : Nat) (typeOnly : Bool) : Reading ExportAll := do
  expectMark .times
  let exported ← readAlias?
  expectWord "from"
  let source ← readSource
  semicolon
  return ⟨← spanFrom start, exported, source, typeOnly⟩

/-- The specifier of an export that names a module. -/
def Clause.reexport (clause : Clause) : ExportSpecifier :=
  ⟨clause.span, clause.name, clause.rename.getD clause.name, clause.typeOnly⟩

/-- The specifier of an export of something local, which its name refers to. -/
def Clause.ofLocal (clause : Clause) : ExportSpecifier :=
  match clause.name with
  | .name id => { clause.reexport with localName := .reference id }
  | _ => clause.reexport

/-- A local name is an identifier; anything else is a flaw. -/
def checkLocal (clause : Clause) : Reading Unit := do
  match clause.name with
  | .name id => if reservedWords.contains id.name then flaw (.exportedLocal id.span.start)
  | _ => flaw (.exportedLocal clause.span.start)

/-- The specifiers of an export in braces and the module that it names. -/
def readExportClauses : Reading (List ExportSpecifier × Option StringLiteral) := do
  expectMark .openBrace
  let clauses ← listUpTo .closeBrace readClause
  if ← skipWord "from" then
    let source ← readSource
    semicolon
    return (clauses.map Clause.reexport, some source)
  else
    clauses.forM checkLocal
    semicolon
    return (clauses.map Clause.ofLocal, none)

end ModuleParts.Reading
