import ModuleParts.Record.Json

/-! # Records written and read back

A record is written without its absent fields and without any null, so a reader that takes null for
absence cannot be misled, and a field that is present but empty stays present. The two halves of
metadata are written side by side into one object; their names differ, so each half is found there
again.
-/
namespace ModuleParts

/-! ## Values without null -/

namespace Json

/-- The first value is the second one or stands in it, at any depth. -/
inductive Occurs (part : Json) : Json → Prop
  | self : Occurs part part
  | item {items : List Json} {item : Json} (hmem : item ∈ items) (h : Occurs part item) :
      Occurs part (.array items)
  | field {fields : List (String × Json)} {entry : String × Json} (hmem : entry ∈ fields)
      (h : Occurs part entry.2) : Occurs part (.object fields)

def NullFree (json : Json) : Prop := ¬ Occurs .null json

/-- The keys of an object, in the order in which they are written. -/
def keys : Json → List String
  | .object fields => fields.map Prod.fst
  | _ => []

theorem nullFree_string (value : String) : (Json.string value).NullFree := nofun

theorem nullFree_ofNat (n : Nat) : (ofNat n).NullFree := nofun

theorem nullFree_ofUInt32 (n : UInt32) : (ofUInt32 n).NullFree := nullFree_ofNat n.toNat

theorem nullFree_array {items : List Json} (h : ∀ item ∈ items, item.NullFree) :
    (Json.array items).NullFree := by
  intro hoccurs
  cases hoccurs with
  | item hmem hitem => exact h _ hmem hitem

theorem nullFree_object {fields : List (String × Json)} (h : ∀ entry ∈ fields, entry.2.NullFree) :
    (Json.object fields).NullFree := by
  intro hoccurs
  cases hoccurs with
  | field hmem hentry => exact h _ hmem hentry

theorem NullFree.ne_null {json : Json} (h : json.NullFree) : json ≠ .null := by
  rintro rfl
  exact h .self

/-! ## Fields -/

section Fields

variable {α : Type} {read : Json → Option α} {write : α → Json} {name : String} {value : Option α}

theorem lookup_field (key : String) :
    (field name write value).lookup key = if key = name then value.map write else none := by
  cases value with
  | none => simp [field]
  | some v =>
    by_cases h : key = name
    · simp [field, h]
    · have hbeq : (key == name) = false := beq_false_of_ne h
      simp [field, List.lookup_cons, h, hbeq]

theorem mem_keys_field {key : String} :
    key ∈ (field name write value).map Prod.fst ↔ key = name ∧ value.isSome = true := by
  cases value <;> simp [field]

theorem keys_field : (field name write value).map Prod.fst =
    ([(name, value.isSome)].filter Prod.snd).map Prod.fst := by
  cases value <;> rfl

theorem nullFree_field (h : ∀ v, (write v).NullFree) :
    ∀ entry ∈ field name write value, entry.2.NullFree := by
  intro entry hmem
  obtain ⟨v, -, rfl⟩ : ∃ v, value = some v ∧ (name, write v) = entry := by
    simpa [field] using hmem
  exact h v

theorem optional_some {json : Json} (h : json ≠ .null) :
    optional read (some json) = (read json).map some := by
  cases json with
  | null => exact (h rfl).elim
  | _ => rfl

/-- A field is read as it was written, where reading inverts writing and nothing is written as
null. -/
theorem optional_map (hnull : ∀ v, (write v).NullFree)
    (h : ∀ v, value = some v → read (write v) = some v) :
    optional read (value.map write) = some value := by
  cases value with
  | none => rfl
  | some v =>
    rw [Option.map_some, optional_some (hnull v).ne_null, h v rfl, Option.map_some]

end Fields

/-- The number has at most 32 bits. -/
def IsWord (n : Nat) : Prop := n ≤ 0xffffffff

theorem word?_ofNat {n : Nat} (h : IsWord n) : (ofNat n).word? = some n := if_pos h

theorem uint32?_ofUInt32 (n : UInt32) : (ofUInt32 n).uint32? = some n := by
  have hword : IsWord n.toNat := Nat.le_of_lt_succ n.toNat_lt
  rw [uint32?, ofUInt32, word?_ofNat hword, Option.map_some, UInt32.ofNat_toNat]

theorem array?_map {α : Type} {read : Json → Option α} {write : α → Json} {values : List α}
    (h : ∀ v ∈ values, read (write v) = some v) :
    array? read (.array (values.map write)) = some values := by
  unfold array?
  induction values with
  | nil => rfl
  | cons v rest ih =>
    rw [List.forall_mem_cons] at h
    simp [h.1, ih h.2]

end Json

open Json

/-! ## Offsets of 32 bits -/

def CommentText.FitsWords (comment : CommentText) : Prop :=
  IsWord comment.start ∧ IsWord comment.stop

def Placement.FitsWords (placement : Placement) : Prop :=
  (∀ start, placement.start = some start → IsWord start) ∧
  ∀ stop, placement.stop = some stop → IsWord stop

def CommentGroups.FitsWords (groups : CommentGroups) : Prop :=
  ∀ group ∈ [groups.leading, groups.trailing, groups.inner], ∀ texts, group = some texts →
    ∀ text ∈ texts, text.FitsWords

def Metadata.FitsWords (metadata : Metadata) : Prop :=
  metadata.placement.FitsWords ∧ metadata.comments.FitsWords

/-! ## Parts of records -/

theorem Position.ofJson?_toJson (position : Position) :
    ofJson? position.toJson = some position := by
  simp [ofJson?, toJson, fields?, required, List.lookup_cons, uint32?_ofUInt32]

theorem Position.nullFree_toJson (position : Position) : position.toJson.NullFree := by
  apply nullFree_object
  simp [nullFree_ofUInt32]

theorem Location.ofJson?_toJson (location : Location) :
    ofJson? location.toJson = some location := by
  simp [ofJson?, toJson, fields?, required, List.lookup_cons, Position.ofJson?_toJson]

theorem Location.nullFree_toJson (location : Location) : location.toJson.NullFree := by
  apply nullFree_object
  simp [Position.nullFree_toJson]

theorem BindingKind.ofJson?_toJson (kind : BindingKind) : ofJson? kind.toJson = some kind := by
  cases kind <;> rfl

theorem BindingKind.nullFree_toJson (kind : BindingKind) : kind.toJson.NullFree :=
  nullFree_string kind.name

theorem CommentKind.ofJson?_toJson (kind : CommentKind) : ofJson? kind.toJson = some kind := by
  cases kind <;> rfl

namespace CommentText

theorem ofJson?_toJson {comment : CommentText} (h : comment.FitsWords) :
    ofJson? comment.toJson = some comment := by
  simp [ofJson?, toJson, fields?, required, List.lookup_cons, CommentKind.ofJson?_toJson, string?,
    word?_ofNat h.1, word?_ofNat h.2]

theorem nullFree_toJson (comment : CommentText) : comment.toJson.NullFree := by
  apply nullFree_object
  simp [nullFree_ofNat, nullFree_string, CommentKind.toJson]

theorem array?_listToJson {comments : List CommentText} (h : ∀ comment ∈ comments, comment.FitsWords) :
    array? ofJson? (listToJson comments) = some comments :=
  array?_map fun comment hmem => ofJson?_toJson (h comment hmem)

theorem nullFree_listToJson (comments : List CommentText) : (listToJson comments).NullFree := by
  apply nullFree_array
  intro json hmem
  obtain ⟨comment, -, rfl⟩ := List.mem_map.mp hmem
  exact comment.nullFree_toJson

end CommentText

/-! ## Halves of metadata in any object -/

/-- A placement is found among any fields that give its own names their values. -/
theorem Placement.ofFields?_eq {placement : Placement} (h : placement.FitsWords)
    {field : String → Option Json} (hstart : field "start" = placement.start.map ofNat)
    (hstop : field "end" = placement.stop.map ofNat)
    (hlocation : field "loc" = placement.location.map Location.toJson) :
    ofFields? field = some placement := by
  have hreadStart : optional word? (placement.start.map ofNat) = some placement.start :=
    optional_map nullFree_ofNat fun start heq => word?_ofNat (h.1 start heq)
  have hreadStop : optional word? (placement.stop.map ofNat) = some placement.stop :=
    optional_map nullFree_ofNat fun stop heq => word?_ofNat (h.2 stop heq)
  have hreadLocation : optional Location.ofJson? (placement.location.map Location.toJson) =
      some placement.location :=
    optional_map Location.nullFree_toJson fun location _ => location.ofJson?_toJson
  simp [ofFields?, hstart, hstop, hlocation, hreadStart, hreadStop, hreadLocation]

theorem CommentGroups.ofFields?_eq {groups : CommentGroups} (h : groups.FitsWords)
    {field : String → Option Json}
    (hleading : field "leadingComments" = groups.leading.map CommentText.listToJson)
    (htrailing : field "trailingComments" = groups.trailing.map CommentText.listToJson)
    (hinner : field "innerComments" = groups.inner.map CommentText.listToJson) :
    ofFields? field = some groups := by
  have hread : ∀ group ∈ [groups.leading, groups.trailing, groups.inner],
      optional (array? CommentText.ofJson?) (group.map CommentText.listToJson) = some group := by
    intro group hmem
    apply optional_map CommentText.nullFree_listToJson
    intro texts heq
    exact CommentText.array?_listToJson (h group hmem texts heq)
  simp [ofFields?, hleading, htrailing, hinner, hread]

/-! ## Whole records -/

/-- The optional fields of a record by their names, each with whether it is present. -/
def Specifier.presence (specifier : Specifier) : List (String × Bool) :=
  [("kind", specifier.kind.isSome), ("local", specifier.localName.isSome),
    ("external", specifier.externalName.isSome), ("source", specifier.source.isSome)]

def Metadata.presence (metadata : Metadata) : List (String × Bool) :=
  [("start", metadata.placement.start.isSome), ("end", metadata.placement.stop.isSome),
    ("loc", metadata.placement.location.isSome),
    ("leadingComments", metadata.comments.leading.isSome),
    ("trailingComments", metadata.comments.trailing.isSome),
    ("innerComments", metadata.comments.inner.isSome)]

namespace Specifier

variable (specifier : Specifier)

theorem ofJson?_toJson : ofJson? specifier.toJson = some specifier := by
  have hkind : optional BindingKind.ofJson? (specifier.kind.map BindingKind.toJson) =
      some specifier.kind :=
    optional_map BindingKind.nullFree_toJson fun kind _ => kind.ofJson?_toJson
  have hstring : ∀ text : Option String, optional string? (text.map Json.string) = some text :=
    fun text => optional_map nullFree_string fun _ _ => rfl
  simp [ofJson?, toJson, fields?, required, List.lookup_append, List.lookup_cons, lookup_field,
    hkind, hstring, Location.ofJson?_toJson]

theorem nullFree_toJson : specifier.toJson.NullFree := by
  apply nullFree_object
  simp only [List.forall_mem_append, List.forall_mem_singleton]
  refine ⟨⟨⟨⟨?_, ?_⟩, ?_⟩, ?_⟩, ?_⟩
  · exact nullFree_field BindingKind.nullFree_toJson
  · exact nullFree_field nullFree_string
  · exact nullFree_field nullFree_string
  · exact nullFree_field nullFree_string
  · exact specifier.location.nullFree_toJson

theorem mem_keys_toJson_iff :
    ∀ entry ∈ specifier.presence, entry.1 ∈ specifier.toJson.keys ↔ entry.2 = true := by
  simp [presence, toJson, keys, mem_keys_field, -List.mem_map]

/-- The location comes after the fields that are present. -/
theorem keys_toJson : specifier.toJson.keys =
    (specifier.presence.filter Prod.snd).map Prod.fst ++ ["location"] := by
  have hpresence : specifier.presence = [("kind", specifier.kind.isSome)] ++
      [("local", specifier.localName.isSome)] ++ [("external", specifier.externalName.isSome)] ++
      [("source", specifier.source.isSome)] := rfl
  simp only [hpresence, toJson, keys, List.map_append, List.filter_append, keys_field]
  rfl

end Specifier

namespace Metadata

variable (metadata : Metadata)

/-- What the object of both halves holds under a name. -/
def lookup (name : String) : Option Json :=
  (metadata.placement.toFields ++ metadata.comments.toFields).lookup name

/-- No name of one half is a name of the other, so each half finds its own values. -/
theorem ofFields?_lookup {metadata : Metadata} (h : metadata.FitsWords) :
    Placement.ofFields? metadata.lookup = some metadata.placement ∧
      CommentGroups.ofFields? metadata.lookup = some metadata.comments := by
  constructor
  · apply Placement.ofFields?_eq h.1 <;>
      simp [lookup, Placement.toFields, CommentGroups.toFields, List.lookup_append, lookup_field]
  · apply CommentGroups.ofFields?_eq h.2 <;>
      simp [lookup, Placement.toFields, CommentGroups.toFields, List.lookup_append, lookup_field]

theorem ofJson?_toJson {metadata : Metadata} (h : metadata.FitsWords) :
    ofJson? metadata.toJson = some metadata := by
  obtain ⟨hplacement, hcomments⟩ := ofFields?_lookup h
  have hread : ofJson? metadata.toJson = (Placement.ofFields? metadata.lookup).bind fun placement =>
      (CommentGroups.ofFields? metadata.lookup).bind fun comments => some ⟨placement, comments⟩ := rfl
  rw [hread, hplacement, hcomments]
  rfl

theorem nullFree_toJson : metadata.toJson.NullFree := by
  apply nullFree_object
  simp only [Placement.toFields, CommentGroups.toFields, List.forall_mem_append]
  refine ⟨⟨⟨?_, ?_⟩, ?_⟩, ⟨?_, ?_⟩, ?_⟩
  · exact nullFree_field nullFree_ofNat
  · exact nullFree_field nullFree_ofNat
  · exact nullFree_field Location.nullFree_toJson
  · exact nullFree_field CommentText.nullFree_listToJson
  · exact nullFree_field CommentText.nullFree_listToJson
  · exact nullFree_field CommentText.nullFree_listToJson

theorem mem_keys_toJson_iff :
    ∀ entry ∈ metadata.presence, entry.1 ∈ metadata.toJson.keys ↔ entry.2 = true := by
  simp [presence, toJson, Placement.toFields, CommentGroups.toFields, keys, mem_keys_field,
    -List.mem_map]

theorem keys_toJson :
    metadata.toJson.keys = (metadata.presence.filter Prod.snd).map Prod.fst := by
  have hpresence : metadata.presence = [("start", metadata.placement.start.isSome)] ++
      [("end", metadata.placement.stop.isSome)] ++ [("loc", metadata.placement.location.isSome)] ++
      ([("leadingComments", metadata.comments.leading.isSome)] ++
        [("trailingComments", metadata.comments.trailing.isSome)] ++
        [("innerComments", metadata.comments.inner.isSome)]) := rfl
  simp only [hpresence, toJson, Placement.toFields, CommentGroups.toFields, keys, List.map_append,
    List.filter_append, keys_field]

end Metadata

/-- Records with offsets of 32 bits are read back as they were written. What is written has no null
at any depth, and has the name of an optional field just when the field is present; the only other
name is that of a location. Either half of metadata is also read back alone from the object that
holds both. -/
theorem records_read_back :
    (∀ specifier : Specifier,
      Specifier.ofJson? specifier.toJson = some specifier ∧
      specifier.toJson.NullFree ∧
      specifier.toJson.keys = (specifier.presence.filter Prod.snd).map Prod.fst ++ ["location"] ∧
      ∀ entry ∈ specifier.presence, entry.1 ∈ specifier.toJson.keys ↔ entry.2 = true) ∧
    ∀ metadata : Metadata,
      (metadata.FitsWords → Metadata.ofJson? metadata.toJson = some metadata ∧
        Placement.ofJson? metadata.toJson = some metadata.placement ∧
        CommentGroups.ofJson? metadata.toJson = some metadata.comments) ∧
      metadata.toJson.NullFree ∧
      metadata.toJson.keys = (metadata.presence.filter Prod.snd).map Prod.fst ∧
      ∀ entry ∈ metadata.presence, entry.1 ∈ metadata.toJson.keys ↔ entry.2 = true := by
  constructor
  · intro specifier
    exact ⟨specifier.ofJson?_toJson, specifier.nullFree_toJson, specifier.keys_toJson,
      specifier.mem_keys_toJson_iff⟩
  · intro metadata
    exact ⟨fun h => ⟨Metadata.ofJson?_toJson h, Metadata.ofFields?_lookup h⟩,
      metadata.nullFree_toJson, metadata.keys_toJson, metadata.mem_keys_toJson_iff⟩

namespace Sample

/-- A record with an empty source, no names and the largest column. -/
def sparse : Specifier where
  kind := some .typeof
  source := some ""
  location := ⟨⟨1, 0⟩, ⟨1, 0xffffffff⟩⟩

/-- Metadata without a start, with an empty group and a group with an empty comment. -/
def uneven : Metadata where
  placement := { stop := some 7 }
  comments := { leading := some [], inner := some [⟨.line, "", 3, 5⟩] }

end Sample

theorem Sample.read_back_sparse :
    Specifier.ofJson? sparse.toJson = some sparse ∧
      sparse.toJson.keys = ["kind", "source", "location"] ∧
      uneven.FitsWords ∧ Metadata.ofJson? uneven.toJson = some uneven ∧
      Placement.ofJson? uneven.toJson = some uneven.placement ∧
      uneven.toJson.keys = ["end", "leadingComments", "innerComments"] := by
  have huneven : uneven.FitsWords := by
    simp [uneven, Metadata.FitsWords, Placement.FitsWords, CommentGroups.FitsWords,
      CommentText.FitsWords, IsWord]
  obtain ⟨hspecifier, hmetadata⟩ := records_read_back
  obtain ⟨hboth, hplacement, -⟩ := (hmetadata uneven).1 huneven
  exact ⟨(hspecifier sparse).1, rfl, huneven, hboth, hplacement, rfl⟩

end ModuleParts
