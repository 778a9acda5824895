import ModuleParts.Error
import ModuleParts.Program
import ModuleParts.Source.CommentTable
import ModuleParts.Source.Lexeme
import ModuleParts.Source.Reader.Stmt
import ModuleParts.Tree.Names

/-! # Reading programs

The comment table and the tree are made from the same lexemes. Strings that stand alone at the start
of a program are directives. A text with a fault gives an empty program, if one is wanted at all.
-/
namespace ModuleParts

/-- The grammar for syntax that nests at most `n` deep. -/
def Grammar.level : Nat → Grammar
  | 0 => bottom
  | n + 1 =>
    let g := level n
    ⟨g.readExpr, g.readPattern, g.readType, g.readStmt⟩

namespace Reading

/-- Statements up to the end of the text. Syntax nests no deeper than there are tokens. -/
def program : Reading (List Stmt) := do
  let g := Grammar.level ((← get).ahead.length + 1)
  many do
    if (← peek).kind == .finish then return none else some <$> g.stmt

end Reading

/-- The directive that a statement is, when it is a string and nothing else. -/
def Stmt.directive? : Stmt → Option Directive
  | .expression span (.string literal) => some ⟨span, literal⟩
  | _ => none

/-- The extent of the hashbang line, which comes before all other lexemes. -/
def Lexeme.hashbang? : List Lexeme → Option Span
  | .hashbang span :: _ => some span
  | _ => none

/-- Names that a declaration gives to what it declares. -/
def Decl.declaredNames : Decl → List String
  | .variable decl => decl.boundNames
  | .function _ f => (f.id.map Identifier.name).toList
  | .classDef c => (c.id.map Identifier.name).toList
  | _ => []

/-- Names under which a statement exports something. -/
def Stmt.exportedNames : Stmt → List String
  | .exportAll all => (all.exported.map ModuleName.text).toList
  | .exportDefault _ _ => ["default"]
  | .exportNamed _ declaration specifiers _ _ =>
    (declaration.map Decl.declaredNames).getD [] ++ specifiers.map fun s => s.exported.text
  | _ => []

/-- Names that come again in a list. -/
def repeated : List String → List String
  | [] => []
  | name :: rest => if rest.contains name then name :: repeated rest else repeated rest

/-- A program exports each name once. TypeScript may merge what shares a name. -/
def exportFlaws (sourceType : SourceType) (body : List Stmt) : List Flaw :=
  if sourceType.typescript then []
  else (repeated (body.flatMap Stmt.exportedNames)).map .duplicateExport

/-- The program in a text, and its flaws. -/
def Program.read (sourceType : SourceType) (source : String) :
    Except Fault (Program × List Flaw) := do
  let lexemes ← Lexeme.ofText source.toList
  let scope := ⟨sourceType.typescript, sourceType.definition, false⟩
  let (stmts, cursor) ← Reading.program scope ⟨tokensFrom true lexemes, 0, []⟩
  let body := stmts.dropWhile fun stmt => stmt.directive?.isSome
  return ({
      span := ⟨0, Text.byteLength source.toList⟩
      sourceType := sourceType
      source := source
      comments := CommentTable.ofLexemes lexemes
      hashbang := Lexeme.hashbang? lexemes
      directives := (stmts.takeWhile fun stmt => stmt.directive?.isSome).filterMap Stmt.directive?
      body := body },
    cursor.flaws.reverse ++ exportFlaws sourceType body)

structure ReadOptions where
  sourceType : SourceType := .javascript
  /-- Whether a program with flaws or faults is wanted. -/
  allowErrors : Bool := false
deriving DecidableEq, Repr, Inhabited

namespace CompilationUnit

/-- What becomes of a text, whatever is wrong with it. -/
def readAll (sourceType : SourceType) (source : String) : CompilationUnit :=
  match Program.read sourceType source with
  | .ok (program, flaws) => ⟨program, flaws.map Flaw.message⟩
  | .error fault => ⟨{ sourceType := sourceType, source := source, body := [] }, [fault.message]⟩

/-- The compilation unit of a text, unless it has errors that are not allowed. -/
def ofSource (options : ReadOptions) (source : String) : Except CodeError CompilationUnit :=
  let unit := readAll options.sourceType source
  if unit.hasErrors && !options.allowErrors then .error (.parseFailed unit.complaints)
  else .ok unit

end CompilationUnit

end ModuleParts
