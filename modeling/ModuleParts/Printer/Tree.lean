import ModuleParts.Printer.Clause
import ModuleParts.Tree.Kind

/-! # Printed trees

The text of expressions, declarations and statements: one statement a line, indented by tabs,
without comments. Parentheses of the tree go; they come back where precedence asks for them.
-/
namespace ModuleParts

open Printer

/-- An optional part with a text before it. -/
def Printer.after (before : String) : Option String → String
  | none => ""
  | some text => before ++ text

/-- Whether a branch would take an `else` that is not its own. -/
def Stmt.endsInOpenIf : Stmt → Bool
  | .ifElse _ _ _ none => true
  | .ifElse _ _ _ (some alternate) => alternate.endsInOpenIf
  | .forLoop _ _ _ _ body => body.endsInOpenIf
  | .forIn _ _ _ body => body.endsInOpenIf
  | .forOf _ _ _ _ body => body.endsInOpenIf
  | .whileDo _ _ body => body.endsInOpenIf
  | .withObject _ _ body => body.endsInOpenIf
  | .labeled _ _ body => body.endsInOpenIf
  | _ => false

def Expr.isNumber : Expr → Bool
  | .number _ => true
  | .paren _ inner => inner.isNumber
  | _ => false

/-- The text of a property, whose value is left out where the key already says it. -/
def Printer.property (key : Key) (keyCode value : String) (name : Option String) : String :=
  match key with
  | .plain (.identifier id) => if name == some id.name then value else keyCode ++ ": " ++ value
  | _ => keyCode ++ ": " ++ value

/-- The identifier that an expression is, in parentheses or not. -/
def Expr.identifier? (e : Expr) : Option String :=
  match e.withoutParens with
  | .identifier id => some id.name
  | _ => none

/-- The identifier that a pattern is, with or without a default. -/
def Pattern.identifier? : Pattern → Option String
  | .identifier id _ => some id.name
  | .fallback _ (.identifier id _) _ _ => some id.name
  | _ => none

/-- Elements of an array pattern. A hole at the end keeps its comma, and so does the last element
before a rest. -/
def Printer.slots (elements : List (Option String)) (rest : Option String) : String :=
  let last := match elements.getLast? with
    | none => ""
    | some last => if last.isNone || rest.isSome then "," else ""
  "[" ++ commaList (elements.map (·.getD "")) ++ last ++ after " " rest ++ "]"

/-- Items on one line, or one a line where there are more than the line may hold. -/
def Printer.spread (depth limit : Nat) (first last pad : String) (items : List String) : String :=
  if items.isEmpty then first ++ last
  else if items.length ≤ limit then first ++ pad ++ commaList items ++ pad ++ last
  else first ++ "\n" ++ tabs (depth + 1) ++
    String.intercalate (",\n" ++ tabs (depth + 1)) items ++ "\n" ++ tabs depth ++ last

/-- Decides the place of a statement that belongs to another: braces and short statements on the
line of the owner, nothing but a semicolon for an empty one. -/
def Printer.body (code : String) : Stmt → String
  | .empty _ => ";"
  | _ => " " ++ code

/-- The body of a do loop, up to the place of its test. -/
def Printer.doBody (depth : Nat) (code deeper : String) : Stmt → String
  | .block _ => " " ++ code ++ " "
  | _ => "\n" ++ line (depth + 1) deeper ++ tabs depth

/-- The first branch of a conditional. Braces keep a later `else` from an inner conditional. -/
def Printer.branch (depth : Nat) (hasElse : Bool) (code deeper : String) : Stmt → String
  | .block _ => " " ++ code ++ (if hasElse then " " else "")
  | s =>
    if hasElse && s.endsInOpenIf then " " ++ braces depth [deeper] ++ " "
    else body code s ++ (if hasElse then "\n" ++ tabs depth else "")

mutual

def Expr.code (depth : Nat) (level : Level) (opening : Opening) : Expr → String
  | .identifier id => id.name
  | .number literal => toString literal.value
  | .string literal => quote literal.value
  | .boolean _ value => if value then "true" else "false"
  | .null _ => "null"
  | .this _ => "this"
  | .paren _ inner => inner.code depth level opening
  | .binary _ left op right =>
    let wrap := op.level ≤ level
    let opening := if wrap then .nothing else opening
    parens wrap (left.code depth (op.level - 1) opening ++ " " ++ op.text ++ " " ++
      right.code depth op.level .nothing)
  | .call _ callee arguments =>
    callee.code depth .postfixed opening ++ "(" ++ commaList (Expr.codes depth arguments) ++ ")"
  | .member _ object property =>
    object.code depth .postfixed opening ++ (if object.isNumber then " ." else ".") ++ property.name
  | .array _ elements =>
    let inside := if elements.length ≤ 2 then depth else depth + 1
    spread depth 2 "[" "]" "" (Expr.codes inside elements)
  | .object _ properties =>
    let inside := if properties.length ≤ 1 then depth else depth + 1
    parens (opening == .statement || opening == .arrowBody)
      (spread depth 1 "\x7b" "\x7d" " " (Property.codes inside properties))
  | .function f => parens (opening == .statement || opening == .defaultExport) (f.code depth)
  | .classDef c => parens (opening == .statement || opening == .defaultExport) (c.code depth)
  | .arrow _ concise async params body =>
    parens (Level.assign ≤ level) (word async "async" ++ params.code depth ++ " => " ++
      (if concise then body.conciseCode depth else body.code depth))
  | .cast _ inner type =>
    let wrap := Level.shift ≤ level
    let opening := if wrap then .nothing else opening
    parens wrap (inner.code depth .exponent opening ++ " as " ++ type.code depth)
  | .nonNull _ inner => inner.code depth .postfixed opening ++ "!"
  | .other _ text _ => text

/-- Items of a list, each where a comma would end it. -/
def Expr.codes (depth : Nat) : List Expr → List String
  | [] => []
  | e :: rest => e.code depth .comma .nothing :: Expr.codes depth rest

def Expr.optionCode (depth : Nat) : Option Expr → Option String
  | none => none
  | some e => some (e.code depth .comma .nothing)

def Key.code (depth : Nat) : Key → String
  | .plain name => name.code
  | .computed e => "[" ++ e.code depth .comma .nothing ++ "]"

def Property.code (depth : Nat) : Property → String
  | ⟨_, key, value, _⟩ =>
    property key (key.code depth) (value.code depth .comma .nothing) value.identifier?

def Property.codes (depth : Nat) : List Property → List String
  | [] => []
  | p :: rest => p.code depth :: Property.codes depth rest

/-- A pattern, with a mark between it and its type. -/
def Pattern.markedCode (depth : Nat) (mark : String) : Pattern → String
  | .identifier id note => id.name ++ mark ++ note.code depth
  | .object _ properties rest note =>
    clause (PatternProperty.codes depth properties ++ (Binder.restCode depth rest).toList) ++
      mark ++ note.code depth
  | .array _ elements rest note =>
    slots (Pattern.slotCodes depth elements) (Binder.restCode depth rest) ++ mark ++ note.code depth
  | .fallback _ left right note =>
    left.markedCode depth "" ++ " = " ++ right.code depth .comma .nothing ++ mark ++ note.code depth

def Pattern.slotCodes (depth : Nat) : List (Option Pattern) → List (Option String)
  | [] => []
  | slot :: rest => Pattern.optionCode depth slot :: Pattern.slotCodes depth rest

def Pattern.optionCode (depth : Nat) : Option Pattern → Option String
  | none => none
  | some p => some (p.markedCode depth "")

def PatternProperty.code (depth : Nat) : PatternProperty → String
  | ⟨_, key, value, _⟩ =>
    property key (key.code depth) (value.markedCode depth "") value.identifier?

def PatternProperty.codes (depth : Nat) : List PatternProperty → List String
  | [] => []
  | p :: rest => p.code depth :: PatternProperty.codes depth rest

def Binder.code (depth : Nat) : Binder → String
  | ⟨_, pattern⟩ => pattern.markedCode depth ""

def Binder.codes (depth : Nat) : List Binder → List String
  | [] => []
  | b :: rest => b.code depth :: Binder.codes depth rest

def Binder.optionCode (depth : Nat) : Option Binder → Option String
  | none => none
  | some b => some (b.code depth)

def Binder.restCode (depth : Nat) : Option Binder → Option String
  | none => none
  | some b => some ("..." ++ b.code depth)

def Params.code (depth : Nat) : Params → String
  | ⟨_, items, rest⟩ =>
    "(" ++ commaList (Binder.codes depth items ++ (Binder.restCode depth rest).toList) ++ ")"

/-- Statements in braces. -/
def Block.code (depth : Nat) : Block → String
  | ⟨_, body⟩ => braces depth (Stmt.codes (depth + 1) body)

def Block.optionCode (depth : Nat) : Option Block → Option String
  | none => none
  | some b => some (b.code depth)

/-- The body of an arrow that is an expression. -/
def Block.conciseCode (depth : Nat) : Block → String
  | ⟨_, body⟩ => Stmt.conciseCode depth body

def Stmt.conciseCode (depth : Nat) : List Stmt → String
  | .expression _ e :: _ => e.code depth .comma .arrowBody
  | _ => ""

/-- A function; without a body it ends in a semicolon of its own. -/
def Func.code (depth : Nat) : Func → String
  | ⟨_, id, generator, async, declare, params, body⟩ =>
    word declare "declare" ++ word async "async" ++ "function" ++ (if generator then "*" else "") ++
      (match id with
        | some id => " " ++ id.name
        | none => if generator then " " else "") ++
      params.code depth ++ (Block.optionCode depth body).elim ";" (" " ++ ·)

/-- A function as a method, after its key. -/
def Func.methodCode (depth : Nat) (key : String) : Func → String
  | ⟨_, _, generator, async, _, params, body⟩ =>
    word async "async" ++ (if generator then "*" else "") ++ key ++ params.code depth ++
      (Block.optionCode depth body).elim ";" (" " ++ ·)

def Decorator.codes (depth : Nat) : List Decorator → String
  | [] => ""
  | d :: rest => d.code depth ++ " " ++ Decorator.codes depth rest

def Decorator.code (depth : Nat) : Decorator → String
  | ⟨_, e⟩ => "@" ++ e.code depth .comma .nothing

def Member.code (depth : Nat) : Member → String
  | .staticBlock block => "static " ++ block.code depth
  | .method _ key value static => word static "static" ++ value.methodCode depth (key.code depth)
  | .field _ key value static =>
    word static "static" ++ key.code depth ++ after " = " (Expr.optionCode depth value) ++ ";"

def Member.codes (depth : Nat) : List Member → List String
  | [] => []
  | m :: rest => m.code depth :: Member.codes depth rest

def ClassDef.code (depth : Nat) : ClassDef → String
  | ⟨_, decorators, id, superClass, _, members, abstract, declare⟩ =>
    Decorator.codes depth decorators ++ word declare "declare" ++ word abstract "abstract" ++
      "class " ++ (id.map (·.name ++ " ")).getD "" ++ Expr.superCode depth superClass ++
      braces depth (Member.codes (depth + 1) members)

def Expr.superCode (depth : Nat) : Option Expr → String
  | none => ""
  | some e => "extends " ++ e.code depth .postfixed .nothing ++ " "

def Declarator.code (depth : Nat) : Declarator → String
  | ⟨_, pattern, init, definite⟩ =>
    pattern.markedCode depth (if definite then "!" else "") ++
      after " = " (Expr.optionCode depth init)

def Declarator.codes (depth : Nat) : List Declarator → List String
  | [] => []
  | d :: rest => d.code depth :: Declarator.codes depth rest

/-- A variable declaration without its semicolon. -/
def VariableDecl.code (depth : Nat) : VariableDecl → String
  | ⟨_, kind, declarators, declare⟩ =>
    word declare "declare" ++ kind.keyword ++ " " ++ commaList (Declarator.codes depth declarators)

def ForHead.code (depth : Nat) : ForHead → String
  | .declaration decl => decl.code depth
  | .expr e => e.code depth .lowest .nothing

def ForHead.optionCode (depth : Nat) : Option ForHead → String
  | none => ""
  | some head => head.code depth

def EnumMember.code (depth : Nat) : EnumMember → String
  | ⟨_, name, init⟩ => name.code ++ after " = " (Expr.optionCode depth init)

def EnumMember.codes (depth : Nat) : List EnumMember → List String
  | [] => []
  | [m] => [m.code depth]
  | m :: rest => (m.code depth ++ ",") :: EnumMember.codes depth rest

def Decl.code (depth : Nat) : Decl → String
  | .variable decl => decl.code depth ++ ";"
  | .function _ f => f.code depth
  | .classDef c => c.code depth
  | .typeAlias a => a.code depth
  | .interface i => i.code depth
  | .enum _ id _ members const declare =>
    word declare "declare" ++ word const "const" ++ "enum " ++ id.name ++ " " ++
      braces depth (EnumMember.codes (depth + 1) members)
  | .namespace head dotted body =>
    word head.declare "declare" ++ head.keyword.text ++ " " ++
      String.intercalate "." (head.name.code :: dotted.map (·.name.code)) ++
      (Block.optionCode depth body).elim ";" (" " ++ ·)
  | .global _ _ body declare => word declare "declare" ++ "global " ++ body.code depth
  | .importEquals decl => decl.code

def Decl.optionCode (depth : Nat) : Option Decl → Option String
  | none => none
  | some d => some (d.code depth)

def DefaultValue.code (depth : Nat) : DefaultValue → String
  | .function _ f => f.code depth
  | .classDef c => c.code depth
  | .interface i => i.code depth
  | .expr e => e.code depth .comma .defaultExport ++ ";"

def SwitchCase.code (depth : Nat) : SwitchCase → String
  | ⟨_, test, body⟩ =>
    (Expr.optionCode depth test).elim "default" ("case " ++ ·) ++ ":" ++ Stmt.caseCode depth body

/-- The statements of a case: a single one on its line, others on lines of their own. -/
def Stmt.caseCode (depth : Nat) : List Stmt → String
  | [] => ""
  | [s] => body (s.code depth) s
  | s :: rest =>
    "\n" ++ tabs (depth + 1) ++
      String.intercalate ("\n" ++ tabs (depth + 1))
        (s.code (depth + 1) :: Stmt.codes (depth + 1) rest)

def SwitchCase.codes (depth : Nat) : List SwitchCase → List String
  | [] => []
  | c :: rest => c.code depth :: SwitchCase.codes depth rest

def Handler.optionCode (depth : Nat) : Option Handler → String
  | none => ""
  | some h => h.code depth

def Handler.code (depth : Nat) : Handler → String
  | ⟨_, param, body⟩ =>
    " catch " ++ (Binder.optionCode depth param).elim "" (fun p => "(" ++ p ++ ") ") ++
      body.code depth

/-- A statement, without the indentation before it and the line end after it. -/
def Stmt.code (depth : Nat) : Stmt → String
  | .block b => b.code depth
  | .breakTo _ label => "break" ++ after " " (label.map Identifier.name) ++ ";"
  | .continueTo _ label => "continue" ++ after " " (label.map Identifier.name) ++ ";"
  | .debugger _ => "debugger;"
  | .empty _ => ";"
  | .doWhile _ inner test =>
    "do" ++ doBody depth (inner.code depth) (inner.code (depth + 1)) inner ++ "while (" ++
      test.code depth .lowest .nothing ++ ");"
  | .whileDo _ test inner =>
    "while (" ++ test.code depth .lowest .nothing ++ ")" ++ body (inner.code depth) inner
  | .expression _ e => e.code depth .lowest .statement ++ ";"
  | .forIn _ left right inner =>
    "for (" ++ left.code depth ++ " in " ++ right.code depth .lowest .nothing ++ ")" ++
      body (inner.code depth) inner
  | .forOf _ await left right inner =>
    "for " ++ word await "await" ++ "(" ++ left.code depth ++ " of " ++
      right.code depth .assign .nothing ++ ")" ++ body (inner.code depth) inner
  | .forLoop _ init test update inner =>
    "for (" ++ ForHead.optionCode depth init ++ ";" ++ after " " (Expr.optionCode depth test) ++
      ";" ++ after " " (Expr.optionCode depth update) ++ ")" ++ body (inner.code depth) inner
  | .ifElse _ test consequent alternate =>
    "if (" ++ test.code depth .lowest .nothing ++ ")" ++
      branch depth alternate.isSome (consequent.code depth) (consequent.code (depth + 1))
        consequent ++
      Stmt.elseCode depth alternate
  | .labeled _ label inner => label.name ++ ":" ++ body (inner.code depth) inner
  | .returnWith _ argument => "return" ++ after " " (Expr.optionCode depth argument) ++ ";"
  | .throwWith _ argument => "throw " ++ argument.code depth .lowest .nothing ++ ";"
  | .switch _ discriminant cases =>
    "switch (" ++ discriminant.code depth .lowest .nothing ++ ") " ++
      braces depth (SwitchCase.codes (depth + 1) cases)
  | .tryCatch _ block handler finalizer =>
    "try " ++ block.code depth ++ Handler.optionCode depth handler ++
      after " finally " (Block.optionCode depth finalizer)
  | .withObject _ object inner =>
    "with (" ++ object.code depth .lowest .nothing ++ ")" ++ body (inner.code depth) inner
  | .importDecl d => d.code
  | .exportAll d => d.code
  | .exportDefault _ value => "export default " ++ value.code depth
  | .exportNamed _ declaration specifiers source typeOnly =>
    "export " ++ (Decl.optionCode depth declaration).getD
      (word typeOnly "type" ++ clause (specifiers.map ExportSpecifier.code) ++
        after " from " (source.map fun s => quote s.value) ++ ";")
  | .exportAssignment _ e => "export = " ++ e.code depth .lowest .nothing ++ ";"
  | .namespaceExport _ id => "export as namespace " ++ id.name ++ ";"
  | .decl d => d.code depth

def Stmt.codes (depth : Nat) : List Stmt → List String
  | [] => []
  | s :: rest => s.code depth :: Stmt.codes depth rest

def Stmt.elseCode (depth : Nat) : Option Stmt → String
  | none => ""
  | some s => "else" ++ body (s.code depth) s

end

/-- A string that stands alone as the first statement is no directive. -/
def Printer.guarded : List Stmt → List String
  | [] => []
  | s :: rest =>
    let first := match s with
      | .expression _ e =>
        match e.withoutParens with
        | .string literal => "(" ++ quote literal.value ++ ");"
        | _ => s.code 0
      | _ => s.code 0
    first :: Stmt.codes 0 rest

/-- The text of a program that holds the statements. -/
def printStatements (body : List Stmt) : String := String.join ((guarded body).map (line 0))

end ModuleParts
