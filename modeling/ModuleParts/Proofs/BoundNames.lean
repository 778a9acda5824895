import Mathlib.Data.List.Basic
import ModuleParts.Tree.Names

/-! # Bound names as the leaves of a pattern

A pattern is read as a tree whose inner nodes only order their parts: property values or elements
from left to right, the rest after them, the left side of a fallback. Its identifiers are the
leaves. The names that a pattern binds are the names of its leaves in that order, so keys, defaults,
holes and type annotations contribute nothing.
-/
namespace ModuleParts.Pattern

/-- The patterns directly inside a pattern, in the order of the text. -/
def parts : Pattern → List Pattern
  | .identifier _ _ => []
  | .object _ properties rest _ =>
    properties.map PatternProperty.value ++ rest.toList.map Binder.pattern
  | .array _ elements rest _ => elements.flatMap Option.toList ++ rest.toList.map Binder.pattern
  | .fallback _ left _ _ => [left]

/-- The name that a pattern binds without looking inside it. -/
def ownName? : Pattern → Option String
  | .identifier id _ => some id.name
  | _ => none

theorem sizeOf_value_lt {property : PatternProperty} {properties : List PatternProperty}
    (h : property ∈ properties) : sizeOf property.value < sizeOf properties := by
  have hp := List.sizeOf_lt_of_mem h
  rcases property with ⟨span, key, value, shorthand⟩
  simp only [PatternProperty.mk.sizeOf_spec] at hp
  change sizeOf value < _
  omega

theorem sizeOf_binder_lt {rest : Option Binder} {binder : Binder} (h : binder ∈ rest) :
    sizeOf binder.pattern < sizeOf rest := by
  obtain rfl := Option.mem_def.mp h
  rcases binder with ⟨span, pattern⟩
  simp only [Option.some.sizeOf_spec, Binder.mk.sizeOf_spec]
  omega

theorem sizeOf_lt_of_mem_parts {p q : Pattern} (h : q ∈ p.parts) : sizeOf q < sizeOf p := by
  cases p with
  | identifier id note => simp [parts] at h
  | object span properties rest note =>
    simp only [object.sizeOf_spec]
    rcases List.mem_append.mp h with h | h
    · obtain ⟨property, hp, rfl⟩ := List.mem_map.mp h
      have := sizeOf_value_lt hp
      omega
    · obtain ⟨binder, hb, rfl⟩ := List.mem_map.mp h
      have := sizeOf_binder_lt (Option.mem_toList.mp hb)
      omega
  | array span elements rest note =>
    simp only [array.sizeOf_spec]
    rcases List.mem_append.mp h with h | h
    · obtain ⟨slot, hs, hq⟩ := List.mem_flatMap.mp h
      obtain rfl := Option.mem_def.mp (Option.mem_toList.mp hq)
      have := List.sizeOf_lt_of_mem hs
      simp only [Option.some.sizeOf_spec] at this
      omega
    · obtain ⟨binder, hb, rfl⟩ := List.mem_map.mp h
      have := sizeOf_binder_lt (Option.mem_toList.mp hb)
      omega
  | fallback span left right note =>
    obtain rfl := List.mem_singleton.mp h
    simp only [fallback.sizeOf_spec]
    omega

/-- Names of the leaves of a pattern, from left to right. -/
def leafNames (p : Pattern) : List String :=
  p.ownName?.toList ++ p.parts.attach.flatMap fun q => leafNames q.val
termination_by sizeOf p
decreasing_by exact sizeOf_lt_of_mem_parts q.property

theorem leafNames_eq (p : Pattern) :
    p.leafNames = p.ownName?.toList ++ p.parts.flatMap leafNames := by
  rw [leafNames, List.flatMap_subtype (g := leafNames) (fun _ _ => rfl), List.unattach_attach]

theorem slotBoundNames_eq (elements : List (Option Pattern)) :
    slotBoundNames elements = (elements.flatMap Option.toList).flatMap boundNames := by
  induction elements with
  | nil => rfl
  | cons slot rest ih =>
    cases slot with
    | none => simpa [slotBoundNames, optionBoundNames] using ih
    | some p => simp [slotBoundNames, optionBoundNames, ih]

theorem listBoundNames_eq (properties : List PatternProperty) :
    PatternProperty.listBoundNames properties =
      (properties.map PatternProperty.value).flatMap boundNames := by
  induction properties with
  | nil => rfl
  | cons property rest ih =>
    rcases property with ⟨span, key, value, shorthand⟩
    simp [PatternProperty.listBoundNames, PatternProperty.boundNames, ih]

theorem binderBoundNames_eq (rest : Option Binder) :
    Binder.optionBoundNames rest = (rest.toList.map Binder.pattern).flatMap boundNames := by
  cases rest with
  | none => rfl
  | some binder =>
    rcases binder with ⟨span, pattern⟩
    simp [Binder.optionBoundNames, Binder.boundNames]

/-- One level of the traversal, for every form of pattern. -/
theorem boundNames_eq (p : Pattern) :
    p.boundNames = p.ownName?.toList ++ p.parts.flatMap boundNames := by
  cases p with
  | identifier id note => rfl
  | object span properties rest note =>
    simp only [boundNames, ownName?, parts, listBoundNames_eq, binderBoundNames_eq,
      List.flatMap_append, Option.toList_none, List.nil_append]
  | array span elements rest note =>
    simp only [boundNames, ownName?, parts, slotBoundNames_eq, binderBoundNames_eq,
      List.flatMap_append, Option.toList_none, List.nil_append]
  | fallback span left right note => simp [boundNames, ownName?, parts]

theorem boundNames_eq_leafNames (p : Pattern) : p.boundNames = p.leafNames := by
  induction p using leafNames.induct with
  | case1 p ih =>
    rw [boundNames_eq, leafNames_eq]
    congr 1
    exact List.flatMap_congr fun q hq => ih ⟨q, hq⟩

end ModuleParts.Pattern
