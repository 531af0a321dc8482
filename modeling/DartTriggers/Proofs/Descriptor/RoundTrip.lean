import DartTriggers.Proofs.Descriptor.Shape
/-!
Descriptors written and read back. Both layouts of a registry are read as the registry with every
declared type replaced by the one that its tag stands for; so a registry is read back as it was,
except for types of its own that are written like a built-in one.
-/

namespace DartTriggers

open Json (Fits)

namespace AttributeType

/-- The tags that stand for built-in types. -/
def builtinTags : List String :=
  ["str", "string", "String", "text", "int", "integer", "bool", "boolean", "float", "double"]

def normalized (t : AttributeType) : AttributeType :=
  ofTag t.tag

theorem ofTag_eq_other_iff {s : String} : ofTag s = .other s ↔ s ∉ builtinTags := by
  simp only [ofTag, builtinTags, List.mem_cons, List.not_mem_nil, or_false]
  split_ifs <;> grind

theorem normalized_eq_self_iff {t : AttributeType} :
    t.normalized = t ↔ ∀ s, t = .other s → s ∉ builtinTags := by
  cases t with
  | text | integer | boolean | float => simp [normalized, tag, ofTag]
  | other s => simpa [normalized, tag] using ofTag_eq_other_iff

end AttributeType

namespace Attribute

def normalized (a : Attribute) : Attribute :=
  { a with type := a.type.normalized }

theorem fits_toJson (a : Attribute) (levels : Nat) : Fits (levels + 1) a.toJson := by
  cases a with
  | mk name type default =>
      refine .object ?_
      cases default <;> simp [Fits.string]

theorem ofJson?_toJson (a : Attribute) : ofJson? a.toJson = some a.normalized := by
  cases a with
  | mk name type default => cases default <;> rfl

end Attribute

namespace Entity

def normalized (e : Entity) : Entity :=
  { e with attributes := e.attributes.map Attribute.normalized }

theorem fits_toJson (e : Entity) (levels : Nat) : Fits (levels + 3) e.toJson := by
  have hattributes : Fits (levels + 2) (.array (e.attributes.map Attribute.toJson)) := by
    refine .array ?_
    rw [List.forall_mem_map]
    exact fun a _ => a.fits_toJson levels
  refine .object ?_
  simp [Fits.string, hattributes]

theorem ofJson?_toJson (e : Entity) : ofJson? e.toJson = some e.normalized := by
  have hattributes := Json.listOf?_map Attribute.ofJson?_toJson e.attributes
  have hfields : ofJson? e.toJson =
      ofFields? (.string e.name) (.array (e.attributes.map Attribute.toJson)) := rfl
  rw [hfields, ofFields?, hattributes]
  rfl

end Entity

namespace Registry

/-- Every declared type is replaced by the one that its tag stands for. -/
def normalized (r : Registry) : Registry :=
  ⟨r.entities.map Entity.normalized⟩

theorem fits_toJson (r : Registry) (levels : Nat) : Fits (levels + 5) r.toJson := by
  have hentities : Fits (levels + 4) (.array (r.entities.map Entity.toJson)) := by
    refine .array ?_
    rw [List.forall_mem_map]
    exact fun e _ => e.fits_toJson levels
  refine .object ?_
  simp [hentities]

/-- What is written has the form of a descriptor. -/
theorem ofJson?_toJson (r : Registry) : ofJson? r.toJson = some r.normalized := by
  have hentities := Json.listOf?_map Entity.ofJson?_toJson r.entities
  have hfields : ofJson? r.toJson = ofFields? (.array (r.entities.map Entity.toJson)) := rfl
  rw [hfields, ofFields?, hentities]
  rfl

theorem normalized_eq_self_iff {r : Registry} :
    r.normalized = r ↔ ∀ e ∈ r.entities, ∀ a ∈ e.attributes, a.type.normalized = a.type := by
  have hmap {β : Type} (f : β → β) (l : List β) : l.map f = l ↔ ∀ x ∈ l, f x = x := by
    simpa using List.map_eq_map_iff (f := f) (g := id) (l := l)
  cases r with
  | mk entities =>
      simp only [normalized, Registry.mk.injEq, hmap]
      refine forall₂_congr fun e _ => ?_
      cases e with
      | mk name attributes =>
          simp only [Entity.normalized, Entity.mk.injEq, true_and, hmap]
          refine forall₂_congr fun a _ => ?_
          cases a
          simp [Attribute.normalized]

theorem map_value_ofText_text (isPretty : Bool) (r : Registry) :
    (ofText (r.toJson.text isPretty)).map (·.value) = .ok r.normalized := by
  have hread := toOption_ofText (r.fits_toJson 122) Json.blank_nil
    (Json.written_text isPretty r.toJson) Json.blank_nil
  rw [ofJson?_toJson, Json.toOption_eq_some] at hread
  simpa using hread

/-- Whatever the registry, both of its layouts are read; what is read has every declared type
replaced by the one that its tag stands for, and nothing else is changed. It is the registry
itself if no type of its own is written like a built-in one. -/
theorem ofText_text_toJson (isPretty : Bool) (r : Registry) :
    ((ofText (r.toJson.text isPretty)).map (·.value) = .ok r.normalized) ∧
      ((ofText (r.toJson.text isPretty)).map (·.value) = .ok r ↔
        ∀ e ∈ r.entities, ∀ a ∈ e.attributes, ∀ s, a.type = .other s →
          s ∉ AttributeType.builtinTags) := by
  have hread := map_value_ofText_text isPretty r
  refine ⟨hread, ?_⟩
  rw [hread, Except.ok.injEq, normalized_eq_self_iff]
  simp only [AttributeType.normalized_eq_self_iff]

end Registry

end DartTriggers
