/-! # Source types

What a program is written in, chosen by hand or read off a file path. A definition file holds
TypeScript declarations only.
-/
namespace ModuleParts

structure SourceType where
  typescript : Bool
  definition : Bool
  jsx : Bool
  module : Bool
deriving DecidableEq, Repr, Inhabited

namespace SourceType

/-- A JavaScript module. -/
def javascript : SourceType := ⟨false, false, false, true⟩

/-- JavaScript that is not a module. -/
def script : SourceType := { javascript with module := false }

def withJsx : SourceType := { javascript with jsx := true }

def ofTypescript : SourceType := { javascript with typescript := true }

def ofTypescriptJsx : SourceType := { ofTypescript with jsx := true }

/-- Pieces of a text between the occurrences of a character. -/
def pieces (mark : Char) (text : List Char) : List (List Char) :=
  text.foldr
    (fun c parts => if c == mark then [] :: parts else
      match parts with
      | [] => [[c]]
      | part :: rest => (c :: part) :: rest)
    [[]]

/-- The last component of a path. Components that are empty or a single dot do not count, and two
dots name no file. -/
def fileName? (path : List Char) : Option (List Char) :=
  let named := fun part => !(part == [] || part == ['.'])
  match (pieces '/' path).filter named |>.getLast? with
  | some ['.', '.'] => none
  | name => name

/-- A file name cut at its last dot, unless that dot comes first. -/
def splitExtension? (name : List Char) : Option (List Char × List Char) :=
  match (pieces '.' name).reverse with
  | extension :: first :: rest =>
    if first == [] && rest == [] then none
    else some (List.intercalate ['.'] (first :: rest).reverse, extension)
  | _ => none

/-- Whether one of the last two dotted pieces of a stem is the mark of a definition file. -/
def marksDefinition (stem : List Char) : Bool := ((pieces '.' stem).reverse.take 2).contains ['d']

/-- The source type of a file; a JavaScript module where the path does not tell. -/
def ofPath (path : String) : SourceType :=
  match (fileName? path.toList).bind splitExtension? with
  | none => javascript
  | some (stem, extension) =>
    match String.ofList extension with
    | "cjs" => script
    | "jsx" => withJsx
    | "ts" => { ofTypescript with definition := marksDefinition stem }
    | "mts" => { ofTypescript with definition := ['.', 'd'].isSuffixOf stem }
    | "cts" => { ofTypescript with definition := ['.', 'd'].isSuffixOf stem, module := false }
    | "tsx" => ofTypescriptJsx
    | _ => javascript

end SourceType

end ModuleParts
