import ModuleParts.Tree.Basic

/-! # Bound names

The identifiers that a pattern binds, from left to right, the rest element last.
-/
namespace ModuleParts

mutual

def Pattern.boundNames : Pattern → List String
  | .identifier id _ => [id.name]
  | .object _ properties rest _ =>
    PatternProperty.listBoundNames properties ++ Binder.optionBoundNames rest
  | .array _ elements rest _ => Pattern.slotBoundNames elements ++ Binder.optionBoundNames rest
  | .fallback _ left _ _ => left.boundNames

def Pattern.optionBoundNames : Option Pattern → List String
  | none => []
  | some p => p.boundNames

def Pattern.slotBoundNames : List (Option Pattern) → List String
  | [] => []
  | slot :: rest => Pattern.optionBoundNames slot ++ Pattern.slotBoundNames rest

def PatternProperty.boundNames : PatternProperty → List String
  | ⟨_, _, value, _⟩ => value.boundNames

def PatternProperty.listBoundNames : List PatternProperty → List String
  | [] => []
  | p :: rest => p.boundNames ++ PatternProperty.listBoundNames rest

def Binder.boundNames : Binder → List String
  | ⟨_, pattern⟩ => pattern.boundNames

def Binder.optionBoundNames : Option Binder → List String
  | none => []
  | some b => b.boundNames

end

namespace VariableDecl

/-- The names bound by all declarators. -/
def boundNames (decl : VariableDecl) : List String :=
  decl.declarators.flatMap fun declarator => declarator.pattern.boundNames

end VariableDecl

end ModuleParts
