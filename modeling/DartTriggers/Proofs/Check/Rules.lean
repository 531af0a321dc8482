import DartTriggers.Check.Rule
import DartTriggers.Proofs.Descriptor.Repeats
/-!
Which rule a diagnostic is from, and what it is about. Every rule signs what it says with its name,
so the diagnostics of one name are those that the rules of this name give by themselves. What is
said concerns an entity that is registered, and no attribute but one of this entity.
-/

namespace DartTriggers.Check

namespace Rule

theorem rule_of_mem_checkWhole {r : Registry} {rule : Rule} {d : Diagnostic}
    (hd : d ∈ rule.checkWhole r) : d.rule = rule.name := by
  cases rule with
  | duplicateEntity =>
      obtain ⟨name, -, rfl⟩ := List.mem_map.mp hd
      rfl
  | duplicateAttribute | invalidIdentifier | reservedWord | emptyEntity => cases hd

theorem rule_of_mem_checkEntity {e : Entity} {rule : Rule} {d : Diagnostic}
    (hd : d ∈ rule.checkEntity e) : d.rule = rule.name := by
  cases rule with
  | duplicateEntity => cases hd
  | duplicateAttribute | reservedWord =>
      obtain ⟨name, -, rfl⟩ := List.mem_map.mp hd
      rfl
  | invalidIdentifier =>
      rcases List.mem_append.mp hd with hd | hd
      · split at hd
        · cases hd
        · rw [List.mem_singleton.mp hd]
          rfl
      · obtain ⟨name, -, rfl⟩ := List.mem_map.mp hd
        rfl
  | emptyEntity =>
      rw [checkEntity] at hd
      split at hd
      · rw [List.mem_singleton.mp hd]
        rfl
      · cases hd

end Rule

theorem filter_flatMap_rules {check : Rule → List Diagnostic}
    (hcheck : ∀ rule, ∀ d ∈ check rule, d.rule = rule.name) (name : String) (rules : List Rule) :
    (rules.flatMap check).filter (fun d => d.rule = name) =
      (rules.filter fun rule => rule.name = name).flatMap check := by
  induction rules with
  | nil => rfl
  | cons rule rules ih =>
      rw [List.flatMap_cons, List.filter_append, ih]
      by_cases hname : rule.name = name
      · have hall : (check rule).filter (fun d => d.rule = name) = check rule := by
          rw [List.filter_eq_self]
          intro d hd
          rw [hcheck rule d hd, hname, decide_eq_true_eq]
        rw [hall, List.filter_cons_of_pos (by simpa using hname), List.flatMap_cons]
      · have hnone : (check rule).filter (fun d => d.rule = name) = [] := by
          rw [List.filter_eq_nil_iff]
          intro d hd
          rw [hcheck rule d hd, decide_eq_true_eq]
          exact hname
        rw [hnone, List.nil_append, List.filter_cons_of_neg (by simpa using hname)]

theorem filter_run (rules : List Rule) (r : Registry) (name : String) :
    (run rules r).filter (fun d => d.rule = name) =
      run (rules.filter fun rule => rule.name = name) r := by
  have hwhole : (rules.flatMap (Rule.checkWhole r)).filter (fun d => d.rule = name) =
      (rules.filter fun rule => rule.name = name).flatMap (Rule.checkWhole r) :=
    filter_flatMap_rules (fun _ _ => Rule.rule_of_mem_checkWhole) name rules
  have hentity : ∀ e : Entity,
      (rules.flatMap (Rule.checkEntity e)).filter (fun d => d.rule = name) =
        (rules.filter fun rule => rule.name = name).flatMap (Rule.checkEntity e) :=
    fun e => filter_flatMap_rules (fun _ _ => Rule.rule_of_mem_checkEntity) name rules
  rw [run, List.filter_append, hwhole, List.filter_flatMap]
  simp only [hentity]
  rfl

/-- A diagnostic names an entity and, if it names an attribute, one of this entity. -/
def Diagnostic.Concerns (d : Diagnostic) (e : Entity) : Prop :=
  d.entity = e.name ∧ ∀ name, d.attributeName = some name → name ∈ e.attributeNames

theorem Diagnostic.concerns_of_none {d : Diagnostic} {e : Entity} (hentity : d.entity = e.name)
    (hnone : d.attributeName = none) : d.Concerns e := by
  refine ⟨hentity, ?_⟩
  intro name hname
  rw [hnone] at hname
  cases hname

theorem Diagnostic.concerns_of_some {d : Diagnostic} {e : Entity} {name : String}
    (hentity : d.entity = e.name) (hsome : d.attributeName = some name)
    (hname : name ∈ e.attributeNames) : d.Concerns e := by
  refine ⟨hentity, ?_⟩
  intro other hother
  rw [hsome] at hother
  rwa [← Option.some.inj hother]

namespace Rule

theorem concerns_of_mem_checkWhole {r : Registry} {rule : Rule} {d : Diagnostic}
    (hd : d ∈ rule.checkWhole r) : ∃ e ∈ r.entities, d.Concerns e := by
  cases rule with
  | duplicateEntity =>
      obtain ⟨name, hname, rfl⟩ := List.mem_map.mp hd
      obtain ⟨e, he, rfl⟩ := List.mem_map.mp (mem_of_mem_repeats hname)
      exact ⟨e, he, Diagnostic.concerns_of_none rfl rfl⟩
  | duplicateAttribute | invalidIdentifier | reservedWord | emptyEntity => cases hd

theorem concerns_of_mem_checkEntity {e : Entity} {rule : Rule} {d : Diagnostic}
    (hd : d ∈ rule.checkEntity e) : d.Concerns e := by
  cases rule with
  | duplicateEntity => cases hd
  | duplicateAttribute =>
      obtain ⟨name, hname, rfl⟩ := List.mem_map.mp hd
      rw [Entity.repeatedNames_eq] at hname
      exact Diagnostic.concerns_of_some rfl rfl (mem_of_mem_repeats hname)
  | reservedWord =>
      obtain ⟨name, hname, rfl⟩ := List.mem_map.mp hd
      exact Diagnostic.concerns_of_some rfl rfl (List.mem_of_mem_filter hname)
  | invalidIdentifier =>
      rcases List.mem_append.mp hd with hd | hd
      · split at hd
        · cases hd
        · rw [List.mem_singleton.mp hd]
          exact Diagnostic.concerns_of_none rfl rfl
      · obtain ⟨name, hname, rfl⟩ := List.mem_map.mp hd
        exact Diagnostic.concerns_of_some rfl rfl (List.mem_of_mem_filter hname)
  | emptyEntity =>
      rw [checkEntity] at hd
      split at hd
      · rw [List.mem_singleton.mp hd]
        exact Diagnostic.concerns_of_none rfl rfl
      · cases hd

end Rule

/-- Rules do not disturb each other, and what they say is signed and about the registry. -/
theorem run_separable (rules : List Rule) (r : Registry) :
    (∀ name : String, (run rules r).filter (fun d => d.rule = name) =
      run (rules.filter fun rule => rule.name = name) r) ∧
    ∀ d ∈ run rules r,
      (∃ rule ∈ rules, d.rule = rule.name) ∧ ∃ e ∈ r.entities, d.Concerns e := by
  refine ⟨filter_run rules r, ?_⟩
  intro d hd
  rw [run, List.mem_append, List.mem_flatMap, List.mem_flatMap] at hd
  rcases hd with ⟨rule, hrule, hd⟩ | ⟨e, he, hd⟩
  · exact ⟨⟨rule, hrule, Rule.rule_of_mem_checkWhole hd⟩, Rule.concerns_of_mem_checkWhole hd⟩
  · obtain ⟨rule, hrule, hd⟩ := List.mem_flatMap.mp hd
    exact ⟨⟨rule, hrule, Rule.rule_of_mem_checkEntity hd⟩,
      ⟨e, he, Rule.concerns_of_mem_checkEntity hd⟩⟩

/-- A rule that is given twice says everything twice about an entity. -/
theorem run_separable_twice :
    let rules : List Rule := [.reservedWord, .duplicateAttribute, .reservedWord]
    let attributes : List Attribute := [⟨"in", .text, none⟩, ⟨"in", .text, none⟩]
    let r : Registry := ⟨[⟨"A", attributes⟩, ⟨"B", []⟩]⟩
    let found := Rule.reservedName "A" "in"
    (run rules r).filter (fun d => d.rule = "reserved-word") = [found, found, found, found] ∧
      found ∈ run rules r ∧ ∃ e ∈ r.entities, found.Concerns e := by
  intro rules attributes r found
  have hmem : found ∈ run rules r := by decide
  have halone : run (rules.filter fun rule => rule.name = "reserved-word") r =
      [found, found, found, found] := by decide
  obtain ⟨hfilter, hconcerns⟩ := run_separable rules r
  exact ⟨(hfilter "reserved-word").trans halone, hmem, (hconcerns found hmem).2⟩

end DartTriggers.Check
