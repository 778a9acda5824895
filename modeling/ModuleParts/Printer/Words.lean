import ModuleParts.Text.Blank
import ModuleParts.Tree.Basic

/-! # Words of printed code

Indentation, quoting, braces, and the levels that decide where parentheses are needed.
-/
namespace ModuleParts.Printer

def tabs (depth : Nat) : String := String.ofList (List.replicate depth '\t')

/-- One line of a nested text. -/
def line (depth : Nat) (text : String) : String := tabs depth ++ text ++ "\n"

/-- Lines in braces, one deeper than the braces; nothing between the braces when there are none. -/
def braces (depth : Nat) : List String → String
  | [] => "\x7b\x7d"
  | lines => "\x7b\n" ++ String.join (lines.map (line (depth + 1))) ++ tabs depth ++ "\x7d"

def commaList (items : List String) : String := String.intercalate ", " items

/-- A word and a blank after it, when the word is there. -/
def word (present : Bool) (text : String) : String := if present then text ++ " " else ""

def parens (needed : Bool) (text : String) : String := if needed then "(" ++ text ++ ")" else text

/-- A character of a string literal. A zero before a digit needs all its digits. -/
def escape (c : Char) (next : Option Char) : String :=
  match c.toNat with
  | 0x00 => if next.any Char.isDigit then "\\x00" else "\\0"
  | 0x07 => "\\x07"
  | 0x08 => "\\b"
  | 0x0a => "\\n"
  | 0x0b => "\\v"
  | 0x0c => "\\f"
  | 0x0d => "\\r"
  | 0x1b => "\\x1B"
  | 0x22 => "\\\""
  | 0x5c => "\\\\"
  | 0xa0 => "\\xA0"
  | 0x2028 => "\\" ++ "u2028"
  | 0x2029 => "\\" ++ "u2029"
  | _ => c.toString

def escapeAll : List Char → String
  | [] => ""
  | c :: rest => escape c rest.head? ++ escapeAll rest

/-- A string literal in double quotes. -/
def quote (value : String) : String := "\"" ++ escapeAll value.toList ++ "\""

/-- How tightly the surroundings of an expression bind. -/
abbrev Level := Nat

namespace Level

def lowest : Level := 0
def comma : Level := 1
def assign : Level := 2
def shift : Level := 3
def add : Level := 4
def multiply : Level := 5
def exponent : Level := 6
def postfixed : Level := 7

end Level

/-- What an expression is the first thing of. A function, class or object there would be taken for
something else without parentheses. -/
inductive Opening where
  | nothing
  | statement
  | defaultExport
  | arrowBody
deriving DecidableEq, Repr

end ModuleParts.Printer

namespace ModuleParts

open Printer

def BinaryOp.text : BinaryOp → String
  | .add => "+"
  | .subtract => "-"
  | .multiply => "*"

def BinaryOp.level : BinaryOp → Level
  | .add => .add
  | .subtract => .add
  | .multiply => .multiply

def PropertyName.code : PropertyName → String
  | .identifier id => id.name
  | .string literal => quote literal.value
  | .number literal => toString literal.value

def ModuleName.code : ModuleName → String
  | .name id => id.name
  | .reference id => id.name
  | .string literal => quote literal.value

def ImportPhase.keyword : ImportPhase → String
  | .source => "source"
  | .defer => "defer"

def NamespaceKeyword.text : NamespaceKeyword → String
  | .module => "module"
  | .namespace => "namespace"

end ModuleParts
