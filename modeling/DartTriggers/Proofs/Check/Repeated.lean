import DartTriggers.Proofs.Check.Errors
import DartTriggers.Proofs.Check.Rules
import DartTriggers.Proofs.Descriptor.Shape
/-!
What is said of names that repeat. The search through the attributes of an entity and the rule about
the entities of a registry find the names of a list in one way, and the warnings of registration are
the diagnostics of the rule about attributes.
-/

namespace DartTriggers.Check

theorem map_entity_checkWhole (r : Registry) :
    (Rule.duplicateEntity.checkWhole r).map (·.entity) = repeats r.entityNames := by
  rw [Rule.checkWhole, List.map_map]
  exact List.map_id _

/-- For the same names both searches give those that occur at least twice, each once, in the order
of their second occurrences. -/
theorem repeatedNames_eq_reported {names : List String} {e : Entity} {r : Registry}
    (he : e.attributeNames = names) (hr : r.entityNames = names) :
    e.repeatedNames = (Rule.duplicateEntity.checkWhole r).map (·.entity) ∧
      (∀ name, name ∈ e.repeatedNames ↔ 2 ≤ names.count name) ∧ e.repeatedNames.Nodup ∧
      ∃ positions : List Nat, positions.Pairwise (· < ·) ∧
        List.Forall₂ (SecondAt names) e.repeatedNames positions := by
  have hrepeated : e.repeatedNames = repeats names := by
    rw [Entity.repeatedNames_eq, he]
  have hreported : (Rule.duplicateEntity.checkWhole r).map (·.entity) = repeats names := by
    rw [map_entity_checkWhole, hr]
  rw [hrepeated, hreported]
  exact ⟨rfl, fun name => mem_repeats, nodup_repeats names, exists_positions_repeats names⟩

def interleaved : List String :=
  ["b", "a", "c", "a", "b", "b", "a"]

theorem repeatedNames_eq_reported_interleaved :
    let e : Entity := ⟨"E", interleaved.map fun name => ⟨name, .integer, none⟩⟩
    let r : Registry := ⟨interleaved.map fun name => ⟨name, []⟩⟩
    e.attributeNames = interleaved ∧ r.entityNames = interleaved ∧
      e.repeatedNames = ["a", "b"] ∧
      (Rule.duplicateEntity.checkWhole r).map (·.entity) = ["a", "b"] := by
  intro e r
  have he : e.attributeNames = interleaved := rfl
  have hr : r.entityNames = interleaved := rfl
  have hrepeated : e.repeatedNames = ["a", "b"] := by decide
  exact ⟨he, hr, hrepeated, (repeatedNames_eq_reported he hr).1.symm.trans hrepeated⟩

theorem filter_all_repeatedAttribute (r : Registry) :
    (all r).filter (fun d => d.rule = Rule.duplicateAttribute.name) =
      r.entities.flatMap fun e => e.repeatedNames.map (Rule.repeatedAttribute e.name) := by
  have honly : Rule.builtin.filter (fun rule => rule.name = Rule.duplicateAttribute.name) =
      [.duplicateAttribute] := by
    decide
  rw [all, filter_run, honly, run]
  simp only [List.flatMap_singleton]
  rfl

theorem events_registerAll (r : Registry) (es : List Entity) :
    (r.registerAll es).events = es.flatMap Entity.warnings := by
  induction es generalizing r with
  | nil => rfl
  | cons e es ih =>
      rw [Registry.registerAll, List.flatMap_cons, ← ih (r.register e).value]
      rfl

/-- An event warns of the attribute that a diagnostic is about. -/
def WarnsOf (event : Log.Event) (d : Diagnostic) : Prop :=
  event.level = .warn ∧ event.message = "Duplicate attribute name" ∧
    ∃ name, d.attributeName = some name ∧ event.fields = [("entity", d.entity), ("attribute", name)]

theorem warnsOf_repeatedAttribute (entity name : String) :
    WarnsOf (.repeatedAttribute entity name) (Rule.repeatedAttribute entity name) :=
  ⟨rfl, rfl, name, rfl, rfl⟩

theorem forall₂_warnings (es : List Entity) :
    List.Forall₂ WarnsOf (es.flatMap Entity.warnings)
      (es.flatMap fun e => e.repeatedNames.map (Rule.repeatedAttribute e.name)) := by
  induction es with
  | nil => exact .nil
  | cons e es ih =>
      rw [List.flatMap_cons, List.flatMap_cons]
      refine List.rel_append ?_ ih
      rw [Entity.warnings, List.forall₂_map_left_iff, List.forall₂_map_right_iff,
        List.forall₂_same]
      intro name _
      exact warnsOf_repeatedAttribute e.name name

theorem forall₂_registerAll (es : List Entity) :
    List.Forall₂ WarnsOf (Registry.empty.registerAll es).events
      ((all (Registry.empty.registerAll es).value).filter
        fun d => d.rule = Rule.duplicateAttribute.name) := by
  rw [events_registerAll, filter_all_repeatedAttribute, Registry.registerAll_value]
  exact forall₂_warnings es

/-- The warnings that are given while a document is read, or while entities are registered one after
the other, are the diagnostics about repeated attributes, in their order; there are none where a
document cannot be read. -/
theorem warnings_match_diagnostics :
    (∀ source : String,
      match (Registry.readText source).value with
      | .error _ => (Registry.readText source).events = []
      | .ok r => List.Forall₂ WarnsOf (Registry.readText source).events
          ((all r).filter fun d => d.rule = "duplicate-attribute")) ∧
    ∀ es : List Entity, List.Forall₂ WarnsOf (Registry.empty.registerAll es).events
      ((all (Registry.empty.registerAll es).value).filter
        fun d => d.rule = "duplicate-attribute") := by
  refine ⟨fun source => ?_, forall₂_registerAll⟩
  rw [Registry.readText]
  cases Json.decode Registry.decoder source with
  | error e => rfl
  | ok parsed => exact forall₂_registerAll parsed.entities

example : (Registry.readText "[[[\"A\",[[\"x\",\"int\"],[\"x\",\"int\"]]]]]").events =
    [.repeatedAttribute "A" "x"] := by
  decide +kernel

end DartTriggers.Check
