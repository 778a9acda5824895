/-! # Faults and flaws

A fault ends the reading of a text: nothing is kept. A flaw is reported, but the program is kept
whole.
-/
namespace ModuleParts

inductive Fault where
  | unexpectedCharacter (offset : Nat)
  | unterminatedComment (offset : Nat)
  | unterminatedString (offset : Nat)
  | invalidEscape (offset : Nat)
  | invalidNumber (offset : Nat)
  | unexpectedToken (offset : Nat)
deriving DecidableEq, Repr, Inhabited

def Fault.message : Fault → String
  | .unexpectedCharacter offset => "Unexpected character at offset " ++ toString offset
  | .unterminatedComment offset => "Unterminated comment at offset " ++ toString offset
  | .unterminatedString offset => "Unterminated string at offset " ++ toString offset
  | .invalidEscape offset => "Invalid escape at offset " ++ toString offset
  | .invalidNumber offset => "Invalid number at offset " ++ toString offset
  | .unexpectedToken offset => "Unexpected token at offset " ++ toString offset

inductive Flaw where
  | returnOutsideFunction (offset : Nat)
  | missingInitializer (offset : Nat)
  | exportedLocal (offset : Nat)
  | missingFunctionName (offset : Nat)
  | duplicateExport (name : String)
deriving DecidableEq, Repr, Inhabited

def Flaw.message : Flaw → String
  | .returnOutsideFunction offset => "Return outside a function at offset " ++ toString offset
  | .missingInitializer offset => "Missing initializer at offset " ++ toString offset
  | .exportedLocal offset => "Not a local name to export at offset " ++ toString offset
  | .missingFunctionName offset => "Missing function name at offset " ++ toString offset
  | .duplicateExport name => "Duplicate export of " ++ name

end ModuleParts
