import DartTriggers.Proofs.Descriptor.RoundTrip
import DartTriggers.Proofs.Json.Invariants
/-!
The registries that can be loaded. Whatever a document is like, each type in it is one that a tag
stands for, so no registry that is loaded has a type of its own that is written like a built-in one;
and every registry without such a type can be loaded, from either of its own layouts.
-/

namespace DartTriggers

open Json (RecordField)

theorem AttributeType.normalized_ofTag (tag : String) : (ofTag tag).normalized = ofTag tag := by
  by_cases hbuiltin : tag ∈ builtinTags
  · simp only [builtinTags, List.mem_cons, List.not_mem_nil, or_false] at hbuiltin
    rcases hbuiltin with rfl | rfl | rfl | rfl | rfl | rfl | rfl | rfl | rfl | rfl <;> rfl
  · have hother : ofTag tag = .other tag := ofTag_eq_other_iff.mpr hbuiltin
    rw [normalized, hother]
    exact hother

namespace Attribute

/-- The type, once it has been read, is one that a tag stands for. -/
def Draft.IsNormal (draft : Draft) : Prop :=
  ∀ type, draft.type = some type → type.normalized = type

theorem keeps_isNormal : ∀ field ∈ fields, field.Keeps Draft.IsNormal := by
  have hname : (knownName.field).Keeps Draft.IsNormal :=
    Json.keeps_of (P := fun _ => True) (fun _ _ _ _ _ => trivial) fun _ _ _ h => h
  have htype : (knownType.field).Keeps Draft.IsNormal := by
    have hread : AttributeType.decoder.Yields fun type => type.normalized = type :=
      Json.yields_map AttributeType.normalized_ofTag
    refine Json.keeps_of hread fun type draft htype _ type' hsome => ?_
    rwa [← Option.some.inj hsome]
  have hdefault : defaultField.Keeps Draft.IsNormal := by
    intro levels
    refine Json.Reader.Yields.map fun s value rest _ f hf draft hdraft => ?_
    cases hvalue : defaultOf value with
    | error complaint =>
        rw [hvalue] at hf
        cases hf
    | ok x =>
        rw [hvalue] at hf
        rw [← Except.ok.inj hf]
        exact hdraft
  rw [fields_eq]
  simp only [knownFields, List.map_cons, List.map_nil, List.forall_mem_cons]
  exact ⟨hname, htype, hdefault, List.forall_mem_nil _⟩

theorem yields_record : record.decoder.Yields fun a => a.type.normalized = a.type := by
  refine Json.yields_record (I := Draft.IsNormal) (by nofun) keeps_isNormal ?_
  rintro ⟨name, type, default⟩ a hdraft hfinish
  cases name with
  | none => cases type <;> cases hfinish
  | some name =>
      cases type with
      | none => cases hfinish
      | some type =>
          obtain rfl := Except.ok.inj hfinish
          exact hdraft type rfl

end Attribute

namespace Entity

def IsNormal (e : Entity) : Prop :=
  ∀ a ∈ e.attributes, a.type.normalized = a.type

def Draft.IsNormal (draft : Draft) : Prop :=
  ∀ attributes, draft.attributes = some attributes →
    ∀ a ∈ attributes, a.type.normalized = a.type

theorem keeps_isNormal : ∀ field ∈ fields, field.Keeps Draft.IsNormal := by
  have hname : (knownName.field).Keeps Draft.IsNormal :=
    Json.keeps_of (P := fun _ => True) (fun _ _ _ _ _ => trivial) fun _ _ _ h => h
  have hattributes : (knownAttributes.field).Keeps Draft.IsNormal := by
    refine Json.keeps_of (Json.yields_list Attribute.yields_record) ?_
    intro attributes draft hread _ attributes' hsome
    rwa [← Option.some.inj hsome]
  rw [fields_eq]
  simp only [knownFields, List.map_cons, List.map_nil, List.forall_mem_cons]
  exact ⟨hname, hattributes, List.forall_mem_nil _⟩

theorem yields_record : record.decoder.Yields IsNormal := by
  refine Json.yields_record (I := Draft.IsNormal) (by nofun) keeps_isNormal ?_
  rintro ⟨name, attributes⟩ e hdraft hfinish
  cases name with
  | none => cases hfinish
  | some name =>
      obtain rfl := Except.ok.inj hfinish
      cases attributes with
      | none => exact List.forall_mem_nil _
      | some attributes => exact hdraft attributes rfl

end Entity

namespace Registry

theorem yields_decoder : decoder.Yields fun r => r.normalized = r := by
  have hfields : ∀ field ∈ fields, field.Keeps fun draft : Draft =>
      ∀ entities, draft.entities = some entities → ∀ e ∈ entities, e.IsNormal := by
    rw [fields_eq]
    simp only [knownFields, List.map_cons, List.map_nil, List.forall_mem_singleton]
    refine Json.keeps_of (Json.yields_list Entity.yields_record) ?_
    intro entities draft hnormal _ entities' hsome
    rwa [← Option.some.inj hsome]
  refine Json.yields_record (by nofun) hfields ?_
  rintro ⟨entities⟩ r hdraft hfinish
  obtain rfl := Except.ok.inj hfinish
  refine normalized_eq_self_iff.mpr ?_
  cases entities with
  | none => exact List.forall_mem_nil _
  | some entities => exact hdraft entities rfl

theorem normalized_of_ofText {source : String} {r : Registry}
    (h : (ofText source).map (·.value) = .ok r) : r.normalized = r := by
  unfold ofText readText at h
  cases hdecode : Json.decode decoder source with
  | error e =>
      rw [hdecode] at h
      cases h
  | ok parsed =>
      have hparsed := Json.of_decode_eq_ok yields_decoder hdecode
      simp only [hdecode, Except.map, registerAll_value, empty, List.nil_append] at h
      obtain rfl := Except.ok.inj h
      exact hparsed

/-- A registry can be loaded from some document exactly if no type of its own is written like a
built-in one, and then it is loaded again, as it is, from both of its own layouts. -/
theorem exists_ofText_iff (r : Registry) :
    ((∃ source, (ofText source).map (·.value) = .ok r) ↔
      ∀ e ∈ r.entities, ∀ a ∈ e.attributes, ∀ tag, a.type = .other tag →
        tag ∉ AttributeType.builtinTags) ∧
    ∀ source, (ofText source).map (·.value) = .ok r →
      ∀ isPretty, (ofText (r.toJson.text isPretty)).map (·.value) = .ok r := by
  have hagain : r.normalized = r →
      ∀ isPretty, (ofText (r.toJson.text isPretty)).map (·.value) = .ok r := by
    intro hnormal isPretty
    rw [map_value_ofText_text, hnormal]
  have hnormal : r.normalized = r ↔ ∀ e ∈ r.entities, ∀ a ∈ e.attributes, ∀ tag,
      a.type = .other tag → tag ∉ AttributeType.builtinTags := by
    rw [normalized_eq_self_iff]
    simp only [AttributeType.normalized_eq_self_iff]
  refine ⟨?_, fun source hsource => hagain (normalized_of_ofText hsource)⟩
  rw [← hnormal]
  constructor
  · rintro ⟨source, hsource⟩
    exact normalized_of_ofText hsource
  · intro h
    exact ⟨_, hagain h false⟩

example : (ofText "[[[\"A\",[[\"x\",\"double\",1e2],[\"y\",\"Int\",false]]]]]").map (·.value) =
    .ok ⟨[⟨"A", [⟨"x", .float, some "100.0"⟩, ⟨"y", .other "Int", some "false"⟩]⟩]⟩ := by
  decide +kernel

end Registry

end DartTriggers
