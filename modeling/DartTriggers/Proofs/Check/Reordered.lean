import Mathlib.Data.List.Perm.Basic
import DartTriggers.Check.Rule
import DartTriggers.Proofs.Descriptor.Repeats
/-!
Registries that differ only in the order of their declarations. A check says the same about them,
in another order. The two rules about repeated names look at what came before a name, but which
names repeat is known from how often each occurs.
-/

namespace DartTriggers

/-- The same entity, with its attributes declared in some other order. -/
def Entity.Reordered (e e' : Entity) : Prop :=
  e.name = e'.name ∧ e.attributes.Perm e'.attributes

/-- The entities of a registry in some other order, and in each of them the attributes. -/
def Registry.Reordered (r r' : Registry) : Prop :=
  ∃ es, r.entities.Perm es ∧ List.Forall₂ Entity.Reordered es r'.entities

theorem Entity.Reordered.attributeNames {e e' : Entity} (h : e.Reordered e') :
    e.attributeNames.Perm e'.attributeNames :=
  h.2.map _

theorem flatMap_perm_of_reordered {α : Type} {f : Entity → List α} {es es' : List Entity}
    (hf : ∀ e e' : Entity, e.Reordered e' → (f e).Perm (f e'))
    (h : List.Forall₂ Entity.Reordered es es') : (es.flatMap f).Perm (es'.flatMap f) := by
  induction h with
  | nil => exact .nil
  | cons he _ ih =>
      rw [List.flatMap_cons, List.flatMap_cons]
      exact (hf _ _ he).append ih

/-- What is gathered from the entities of reordered registries differs only in its order, if this
holds for reordered entities. -/
theorem Registry.Reordered.flatMap {α : Type} {f : Entity → List α} {r r' : Registry}
    (h : r.Reordered r') (hf : ∀ e e' : Entity, e.Reordered e' → (f e).Perm (f e')) :
    (r.entities.flatMap f).Perm (r'.entities.flatMap f) := by
  obtain ⟨es, hperm, hentities⟩ := h
  exact (hperm.flatMap_right f).trans (flatMap_perm_of_reordered hf hentities)

theorem Registry.Reordered.entityNames {r r' : Registry} (h : r.Reordered r') :
    r.entityNames.Perm r'.entityNames := by
  unfold Registry.entityNames
  rw [List.map_eq_flatMap, List.map_eq_flatMap]
  apply h.flatMap
  intro e e' he
  rw [he.1]

namespace Check

namespace Rule

theorem checkWhole_perm (rule : Rule) {r r' : Registry} (h : r.Reordered r') :
    (rule.checkWhole r).Perm (rule.checkWhole r') := by
  cases rule with
  | duplicateEntity => exact (repeats_perm h.entityNames).map _
  | duplicateAttribute | invalidIdentifier | reservedWord | emptyEntity => exact .nil

theorem checkEntity_perm (rule : Rule) {e e' : Entity} (h : e.Reordered e') :
    (rule.checkEntity e).Perm (rule.checkEntity e') := by
  have hname : e.name = e'.name := h.1
  have hnames : e.attributeNames.Perm e'.attributeNames := h.attributeNames
  cases rule with
  | duplicateEntity => exact .nil
  | duplicateAttribute =>
      simp only [checkEntity, Entity.repeatedNames_eq, hname]
      exact (repeats_perm hnames).map _
  | invalidIdentifier =>
      simp only [checkEntity, hname]
      exact .append_left _ ((hnames.filter _).map _)
  | reservedWord =>
      simp only [checkEntity, hname]
      exact (hnames.filter _).map _
  | emptyEntity =>
      have hempty : e.attributes.isEmpty = e'.attributes.isEmpty := h.2.isEmpty_eq
      simp only [checkEntity, hname, hempty]
      exact .refl _

end Rule

/-- Reordered registries are checked with the same diagnostics, each found as often. -/
theorem all_perm {r r' : Registry} (h : r.Reordered r') : (all r).Perm (all r') := by
  apply List.Perm.append
  · apply List.Perm.flatMap_left
    intro rule _
    exact rule.checkWhole_perm h
  · apply h.flatMap
    intro e e' he
    apply List.Perm.flatMap_left
    intro rule _
    exact rule.checkEntity_perm he

/-- Here `z` repeats before `x` in one order and after it in the other. -/
theorem all_perm_shuffled :
    let number (name : String) : Attribute := ⟨name, .integer, none⟩
    let nested : Entity := ⟨"A", ["x", "z", "z", "in", "x"].map number⟩
    let sorted : Entity := ⟨"A", ["in", "x", "x", "z", "z"].map number⟩
    let bare : Entity := ⟨"B", []⟩
    let other : Entity := ⟨"A", [number "y-2"]⟩
    Registry.Reordered ⟨[nested, bare, other]⟩ ⟨[other, sorted, bare]⟩ ∧
      all ⟨[nested, bare, other]⟩ ≠ all ⟨[other, sorted, bare]⟩ ∧
      (all ⟨[nested, bare, other]⟩).Perm (all ⟨[other, sorted, bare]⟩) := by
  intro number nested sorted bare other
  have hnested : nested.Reordered sorted := ⟨rfl, by decide⟩
  have hreordered : Registry.Reordered ⟨[nested, bare, other]⟩ ⟨[other, sorted, bare]⟩ := by
    refine ⟨[other, nested, bare], by decide, ?_⟩
    exact .cons ⟨rfl, .refl _⟩ (.cons hnested (.cons ⟨rfl, .refl _⟩ .nil))
  have hdiffer : all ⟨[nested, bare, other]⟩ ≠ all ⟨[other, sorted, bare]⟩ := by decide
  exact ⟨hreordered, hdiffer, all_perm hreordered⟩

end Check

end DartTriggers
