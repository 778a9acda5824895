/-! # JSON values

A JSON value as it is written: a number keeps its digits and the place of its point, an object
keeps its fields in order. The readers refuse with `none`.
-/
namespace ModuleParts

inductive Json where
  | null
  | bool (value : Bool)
  /-- The number `mantissa / 10 ^ places`. -/
  | number (mantissa : Int) (places : Nat)
  | string (value : String)
  | array (items : List Json)
  | object (fields : List (String × Json))
deriving Repr, Inhabited

namespace Json

def ofNat (n : Nat) : Json := .number n 0

/-- A whole number of at most 32 bits. -/
def word? : Json → Option Nat
  | .number (.ofNat n) 0 => if n ≤ 0xffffffff then some n else none
  | _ => none

def ofUInt32 (n : UInt32) : Json := ofNat n.toNat

def uint32? (json : Json) : Option UInt32 := json.word?.map UInt32.ofNat

def string? : Json → Option String
  | .string value => some value
  | _ => none

/-- All items of an array, or a refusal when one of them is refused. -/
def array? {α : Type} (read : Json → Option α) : Json → Option (List α)
  | .array items => items.mapM read
  | _ => none

/-- The name of a case without data: a string, or an object with that one key and null. -/
def case? : Json → Option String
  | .string name => some name
  | .object [(name, .null)] => some name
  | _ => none

/-- The fields of a record, by name: from an object, or from an array that gives them in order. -/
def fields? (names : List String) : Json → Option (String → Option Json)
  | .object fields => some fun name => fields.lookup name
  | .array items =>
    if items.length ≤ names.length then some fun name => (names.zip items).lookup name else none
  | _ => none

/-- The value of a field that must be there. -/
def required {α : Type} (read : Json → Option α) (field : Option Json) : Option α :=
  field.bind read

/-- The value of a field that may be missing or null. -/
def optional {α : Type} (read : Json → Option α) : Option Json → Option (Option α)
  | none => some none
  | some .null => some none
  | some value => (read value).map some

/-- A field that is written only when it is present. -/
def field {α : Type} (name : String) (write : α → Json) (value : Option α) :
    List (String × Json) :=
  (value.map fun v => (name, write v)).toList

end Json

end ModuleParts
