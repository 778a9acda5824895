/-! # Errors

Why a text cannot be read, a tree cannot be written, or a module cannot be decomposed. Every error
is final: no partial result goes with it. Besides its message an error has a name and a code, and a
code error keeps all three where it is passed on.
-/
namespace ModuleParts

inductive CodeError where
  | parseFailed (complaints : List String)
  | codegenFailed (context : String) (reason : Option String)
  | invalidTree (node : String) (details : Option String)
deriving DecidableEq, Repr, Inhabited

namespace CodeError

def name : CodeError → String
  | .parseFailed _ => "ParseFailed"
  | .codegenFailed _ _ => "CodegenFailed"
  | .invalidTree _ _ => "InvalidAst"

/-- The code that a diagnostic of the error carries. -/
def diagnosticCode : CodeError → String
  | .parseFailed _ => "fob::gen::parse_failed"
  | .codegenFailed _ _ => "fob::gen::codegen_failed"
  | .invalidTree _ _ => "fob::gen::invalid_ast"

/-- A remark after a dash, where there is one. -/
def remark (text : Option String) : String := (text.map (" - " ++ ·)).getD ""

def message : CodeError → String
  | .parseFailed complaints => "Parse failed: " ++ String.intercalate ", " complaints
  | .codegenFailed context reason => "Code generation failed: " ++ context ++ remark reason
  | .invalidTree node details => "Invalid AST structure: " ++ node ++ remark details

end CodeError

inductive DecomposeError where
  | invalidRoot (kind : String)
  | unrecognizedSpecifier (kind : String) (start : Nat)
  | unrecognizedDeclaration (kind : String) (start : Nat)
  | code (error : CodeError)
deriving DecidableEq, Repr, Inhabited

namespace DecomposeError

def name : DecomposeError → String
  | .invalidRoot _ => "InvalidRoot"
  | .unrecognizedSpecifier _ _ => "UnrecognizedSpecifier"
  | .unrecognizedDeclaration _ _ => "UnrecognizedDeclaration"
  | .code error => error.name

/-- The code that a diagnostic of the error carries. -/
def diagnosticCode : DecomposeError → String
  | .invalidRoot _ => "fob::explode::invalid_root"
  | .unrecognizedSpecifier _ _ => "fob::explode::unrecognized_specifier"
  | .unrecognizedDeclaration _ _ => "fob::explode::unrecognized_declaration"
  | .code error => error.diagnosticCode

def message : DecomposeError → String
  | .invalidRoot kind =>
    "must pass a compilation unit or program to explode module, received " ++ kind
  | .unrecognizedSpecifier kind start =>
    "unexpected import specifier " ++ kind ++ " at offset " ++ toString start
  | .unrecognizedDeclaration kind start =>
    "unexpected declaration " ++ kind ++ " at offset " ++ toString start
  | .code error => error.message

end DecomposeError

end ModuleParts
