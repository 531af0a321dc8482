import DartTriggers.Check.Rule
import DartTriggers.Proofs.Descriptor.Repeats
/-!
What a check without errors says about a registry.
-/

namespace DartTriggers.Check

namespace Rule

@[simp] theorem isError_repeatedEntity (name : String) :
    (repeatedEntity name).isError = true := rfl

@[simp] theorem isError_repeatedAttribute (entity name : String) :
    (repeatedAttribute entity name).isError = true := rfl

@[simp] theorem isError_badEntityName (entity : String) :
    (badEntityName entity).isError = true := rfl

@[simp] theorem isError_badAttributeName (entity name : String) :
    (badAttributeName entity name).isError = true := rfl

@[simp] theorem isError_reservedName (entity name : String) :
    (reservedName entity name).isError = false := rfl

@[simp] theorem isError_noAttributes (entity : String) :
    (noAttributes entity).isError = false := rfl

end Rule

/-- No rule finds an error in an entity. -/
def Clean (e : Entity) : Prop :=
  e.attributeNames.Nodup ∧ isIdentifier e.name = true ∧
    ∀ name ∈ e.attributeNames, isIdentifier name = true

theorem checkWhole_builtin (r : Registry) :
    Rule.builtin.flatMap (Rule.checkWhole r) = (repeats r.entityNames).map Rule.repeatedEntity := by
  simp [Rule.builtin, Rule.checkWhole]

theorem forall_checkWhole_iff (r : Registry) :
    (∀ d ∈ Rule.builtin.flatMap (Rule.checkWhole r), d.isError = false) ↔ r.entityNames.Nodup := by
  rw [checkWhole_builtin, ← repeats_eq_nil_iff]
  simp [List.eq_nil_iff_forall_not_mem]

theorem forall_checkEntity_iff (e : Entity) :
    (∀ d ∈ Rule.builtin.flatMap (Rule.checkEntity e), d.isError = false) ↔ Clean e := by
  have hrepeated : (∀ d ∈ Rule.checkEntity e .duplicateAttribute, d.isError = false) ↔
      e.attributeNames.Nodup := by
    rw [← repeats_eq_nil_iff]
    simp [Rule.checkEntity, Entity.repeatedNames_eq, List.eq_nil_iff_forall_not_mem]
  have hidentifiers : (∀ d ∈ Rule.checkEntity e .invalidIdentifier, d.isError = false) ↔
      isIdentifier e.name = true ∧ ∀ name ∈ e.attributeNames, isIdentifier name = true := by
    rw [Rule.checkEntity, List.forall_mem_append]
    refine and_congr ?_ ?_
    · cases isIdentifier e.name <;> simp
    · rw [List.forall_mem_map]
      simp
  have hreserved : ∀ d ∈ Rule.checkEntity e .reservedWord, d.isError = false := by
    rw [Rule.checkEntity, List.forall_mem_map]
    simp
  have hempty : ∀ d ∈ Rule.checkEntity e .emptyEntity, d.isError = false := by
    rw [Rule.checkEntity]
    cases e.attributes.isEmpty <;> simp
  rw [List.forall_mem_flatMap]
  simp only [Rule.builtin, List.forall_mem_cons, hrepeated, hidentifiers, Clean]
  have hnone : ∀ d ∈ Rule.checkEntity e .duplicateEntity, d.isError = false := by
    simp [Rule.checkEntity]
  constructor
  · rintro ⟨-, hnodup, hnames, -⟩
    exact ⟨hnodup, hnames⟩
  · rintro ⟨hnodup, hnames⟩
    exact ⟨hnone, hnodup, hnames, hreserved, hempty, List.forall_mem_nil _⟩

/-- A check finds no error exactly when the names are identifiers, no two entities have one name
and no two attributes of an entity do. -/
theorem forall_all_iff (r : Registry) :
    (∀ d ∈ all r, d.isError = false) ↔ r.entityNames.Nodup ∧ ∀ e ∈ r.entities, Clean e := by
  rw [all, run, List.forall_mem_append, forall_checkWhole_iff, List.forall_mem_flatMap]
  simp only [forall_checkEntity_iff]

end DartTriggers.Check
