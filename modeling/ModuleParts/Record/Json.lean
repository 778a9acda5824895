import ModuleParts.Json
import ModuleParts.Record

/-! # Records as JSON

Records are written as objects without their absent fields. They are read from such objects, with
unknown keys ignored, or from arrays that give the fields in order; metadata, which has the fields
of its two halves side by side, is read from an object only.
-/
namespace ModuleParts

namespace Position

def toJson (position : Position) : Json :=
  .object [("line", .ofUInt32 position.line), ("column", .ofUInt32 position.column)]

def ofJson? (json : Json) : Option Position := do
  let field ← json.fields? ["line", "column"]
  let line ← Json.required Json.uint32? (field "line")
  let column ← Json.required Json.uint32? (field "column")
  return ⟨line, column⟩

end Position

namespace Location

def toJson (location : Location) : Json :=
  .object [("start", location.start.toJson), ("end", location.stop.toJson)]

def ofJson? (json : Json) : Option Location := do
  let field ← json.fields? ["start", "end"]
  let start ← Json.required Position.ofJson? (field "start")
  let stop ← Json.required Position.ofJson? (field "end")
  return ⟨start, stop⟩

end Location

namespace BindingKind

def name : BindingKind → String
  | .value => "value"
  | .type => "type"
  | .typeof => "typeof"

def ofName? : String → Option BindingKind
  | "value" => some .value
  | "type" => some .type
  | "typeof" => some .typeof
  | _ => none

def toJson (kind : BindingKind) : Json := .string kind.name

def ofJson? (json : Json) : Option BindingKind := json.case?.bind ofName?

end BindingKind

namespace Specifier

def toJson (specifier : Specifier) : Json :=
  .object <|
    Json.field "kind" BindingKind.toJson specifier.kind ++
    Json.field "local" Json.string specifier.localName ++
    Json.field "external" Json.string specifier.externalName ++
    Json.field "source" Json.string specifier.source ++
    [("location", specifier.location.toJson)]

def ofJson? (json : Json) : Option Specifier := do
  let field ← json.fields? ["kind", "local", "external", "source", "location"]
  let kind ← Json.optional BindingKind.ofJson? (field "kind")
  let localName ← Json.optional Json.string? (field "local")
  let externalName ← Json.optional Json.string? (field "external")
  let source ← Json.optional Json.string? (field "source")
  let location ← Json.required Location.ofJson? (field "location")
  return { kind, localName, externalName, source, location }

end Specifier

namespace CommentKind

def name : CommentKind → String
  | .line => "CommentLine"
  | .block => "CommentBlock"

def ofName? : String → Option CommentKind
  | "CommentLine" => some .line
  | "CommentBlock" => some .block
  | _ => none

def toJson (kind : CommentKind) : Json := .string kind.name

def ofJson? (json : Json) : Option CommentKind := json.case?.bind ofName?

end CommentKind

namespace CommentText

def toJson (comment : CommentText) : Json :=
  .object [("type", comment.kind.toJson), ("value", .string comment.value),
    ("start", .ofNat comment.start), ("end", .ofNat comment.stop)]

def ofJson? (json : Json) : Option CommentText := do
  let field ← json.fields? ["type", "value", "start", "end"]
  let kind ← Json.required CommentKind.ofJson? (field "type")
  let value ← Json.required Json.string? (field "value")
  let start ← Json.required Json.word? (field "start")
  let stop ← Json.required Json.word? (field "end")
  return ⟨kind, value, start, stop⟩

def listToJson (comments : List CommentText) : Json := .array (comments.map toJson)

end CommentText

namespace Placement

def toFields (placement : Placement) : List (String × Json) :=
  Json.field "start" Json.ofNat placement.start ++
  Json.field "end" Json.ofNat placement.stop ++
  Json.field "loc" Location.toJson placement.location

def ofFields? (field : String → Option Json) : Option Placement := do
  let start ← Json.optional Json.word? (field "start")
  let stop ← Json.optional Json.word? (field "end")
  let location ← Json.optional Location.ofJson? (field "loc")
  return ⟨start, stop, location⟩

def toJson (placement : Placement) : Json := .object placement.toFields

def ofJson? (json : Json) : Option Placement :=
  (json.fields? ["start", "end", "loc"]).bind ofFields?

end Placement

namespace CommentGroups

def toFields (groups : CommentGroups) : List (String × Json) :=
  Json.field "leadingComments" CommentText.listToJson groups.leading ++
  Json.field "trailingComments" CommentText.listToJson groups.trailing ++
  Json.field "innerComments" CommentText.listToJson groups.inner

def ofFields? (field : String → Option Json) : Option CommentGroups := do
  let leading ← Json.optional (Json.array? CommentText.ofJson?) (field "leadingComments")
  let trailing ← Json.optional (Json.array? CommentText.ofJson?) (field "trailingComments")
  let inner ← Json.optional (Json.array? CommentText.ofJson?) (field "innerComments")
  return ⟨leading, trailing, inner⟩

def toJson (groups : CommentGroups) : Json := .object groups.toFields

def ofJson? (json : Json) : Option CommentGroups :=
  (json.fields? ["leadingComments", "trailingComments", "innerComments"]).bind ofFields?

end CommentGroups

namespace Metadata

def toJson (metadata : Metadata) : Json :=
  .object (metadata.placement.toFields ++ metadata.comments.toFields)

def ofJson? : Json → Option Metadata
  | .object fields => do
    let field := fun name => fields.lookup name
    let placement ← Placement.ofFields? field
    let comments ← CommentGroups.ofFields? field
    return ⟨placement, comments⟩
  | _ => none

end Metadata

end ModuleParts
