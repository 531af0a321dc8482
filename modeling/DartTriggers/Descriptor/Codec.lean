import DartTriggers.Descriptor.Basic
import DartTriggers.Json.Record
/-!
Descriptors as JSON documents. What is written reads back; reading also takes arrays for records,
unknown keys, and any string, number or boolean as a default.
-/

namespace DartTriggers

open Json (Decoder RecordField Record Complaint)

namespace AttributeType

def decoder : Decoder AttributeType :=
  Decoder.text.map ofTag

end AttributeType

namespace Attribute

def toJson (a : Attribute) : Json :=
  .object ([("name", .string a.name), ("type", .string a.type.tag)] ++
    match a.default with
    | none => []
    | some value => [("default", .string value)])

/-- The default that a value gives: `null` is none, and an array or object is refused. -/
def defaultOf : Json → Except Complaint (Option String)
  | .null => .ok none
  | .bool b => .ok (some (.ofList (Json.boolChars b)))
  | .number n => .ok (some (.ofList n.chars))
  | .string s => .ok (some s)
  | .array items => .error (.structuredDefault (Json.array items).canonical.compact)
  | .object members => .error (.structuredDefault (Json.object members).canonical.compact)

/-- An attribute of which some fields have been read. -/
structure Draft where
  name : Option String := none
  type : Option AttributeType := none
  default : Option (Option String) := none

def fields : List (RecordField Draft) :=
  [.of "name" false .text (·.name) fun x draft => { draft with name := some x },
   .of "type" false AttributeType.decoder (·.type) fun x draft => { draft with type := some x },
   { key := "default"
     hasDefault := true
     isSet := fun draft => draft.default.isSome
     reader := fun levels => (Decoder.any levels).map fun value =>
       (defaultOf value).map fun x draft => { draft with default := some x } }]

def finish (draft : Draft) : Except Complaint Attribute :=
  match draft.name, draft.type with
  | none, _ => .error (.missingField "name")
  | some _, none => .error (.missingField "type")
  | some name, some type => .ok ⟨name, type, draft.default.getD none⟩

def record : Record Draft Attribute :=
  ⟨"struct Attribute", fields, {}, finish⟩

end Attribute

namespace Entity

def toJson (e : Entity) : Json :=
  .object [("name", .string e.name), ("attributes", .array (e.attributes.map Attribute.toJson))]

/-- An entity of which some fields have been read. -/
structure Draft where
  name : Option String := none
  attributes : Option (List Attribute) := none

def fields : List (RecordField Draft) :=
  [.of "name" false .text (·.name) fun x draft => { draft with name := some x },
   .of "attributes" true (.list Attribute.record.decoder) (·.attributes)
     fun x draft => { draft with attributes := some x }]

def finish (draft : Draft) : Except Complaint Entity :=
  match draft.name with
  | none => .error (.missingField "name")
  | some name => .ok ⟨name, draft.attributes.getD []⟩

def record : Record Draft Entity :=
  ⟨"struct Entity", fields, {}, finish⟩

end Entity

namespace Registry

def toJson (r : Registry) : Json :=
  .object [("entities", .array (r.entities.map Entity.toJson))]

/-- A registry whose field may have been read. -/
structure Draft where
  entities : Option (List Entity) := none

def fields : List (RecordField Draft) :=
  [.of "entities" true (.list Entity.record.decoder) (·.entities)
    fun x draft => { draft with entities := some x }]

def record : Record Draft Registry :=
  ⟨"struct Registry", fields, {}, fun draft => .ok ⟨draft.entities.getD []⟩⟩

def decoder : Decoder Registry :=
  record.decoder

end Registry

end DartTriggers
