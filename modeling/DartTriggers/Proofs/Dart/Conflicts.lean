import Mathlib.Data.List.Lattice
import Mathlib.Data.List.Nodup
import Mathlib.Data.List.Pairwise
import Mathlib.Tactic.Tauto
import DartTriggers.Dart.Compile
import DartTriggers.Proofs.Check.Errors
/-!
Names that are declared twice. The classes of a unit and the members of its classes take most of
their names from entities and attributes, but some are made up; the main statements say exactly
when one of these meets a name that was given.
-/

namespace DartTriggers.Dart

namespace Member

/-- The name that a member declares; constructors and comments declare none. -/
def declared? : Member → Option String
  | .field _ _ name _ | .getter _ name _ | .setter name _ _ _ | .method _ _ name _ _ => some name
  | .comment .. | .constructor .. | .factory .. => none

/-- Two members of a class that do not declare one name, other than a getter and its setter. -/
def Compatible (m m' : Member) : Prop :=
  m.declared? = none ∨ m.declared? ≠ m'.declared? ∨
    (m.kind = .getter ∧ m'.kind = .setter) ∨ (m.kind = .setter ∧ m'.kind = .getter)

instance (m m' : Member) : Decidable (Compatible m m') :=
  inferInstanceAs (Decidable (_ ∨ _))

end Member

/-- No two classes have one name, and neither have two members of a class, other than a getter
and its setter. -/
def NoConflict (declarations : List Declaration) : Prop :=
  (declarations.filterMap Declaration.class?).Pairwise (fun c c' => c.name ≠ c'.name) ∧
    ∀ c ∈ declarations.filterMap Declaration.class?, c.members.Pairwise Member.Compatible

instance (declarations : List Declaration) : Decidable (NoConflict declarations) :=
  inferInstanceAs (Decidable (_ ∧ _))

/-- The names that the classes of every entity declare besides those of its attributes. -/
def madeUpMembers : Variant → List String
  | .basic => ["_instance"]
  | .extended => ["_instance", "fields", "multiSet", "_map"]

theorem classes_compileUnit (options : Options) (unit : UnitName) (r : Registry) :
    (compileUnit options unit r).filterMap Declaration.class? =
      r.entities.flatMap (entityClasses options.variant) := by
  have hheader : (unitHeader options unit).filterMap Declaration.class? = [] := by
    unfold unitHeader
    split <;> rfl
  have hclasses : ∀ classes : List ClassDecl,
      (classes.map Declaration.classDecl).filterMap Declaration.class? = classes := by
    intro classes
    rw [List.filterMap_map]
    exact List.filterMap_some
  rw [compileUnit, List.filterMap_append, hheader, List.nil_append, List.filterMap_flatMap]
  simp only [compileEntity, hclasses]

def classNames (v : Variant) (entity : String) : List String :=
  [entity, selectorName entity] ++ if v.hasBatchSetter then [batchSetterName entity] else []

theorem map_name_entityClasses (v : Variant) (e : Entity) :
    (entityClasses v e).map (·.name) = classNames v e.name := by
  cases v <;> rfl

theorem selectorName_inj {a b : String} : selectorName a = selectorName b ↔ a = b := by
  simp [selectorName]

theorem batchSetterName_inj {a b : String} : batchSetterName a = batchSetterName b ↔ a = b := by
  simp [batchSetterName]

theorem selectorName_ne (a : String) : a ≠ selectorName a := by
  intro h
  have hlength := congrArg String.length h
  have hsuffix : "Field".length = 5 := by decide
  rw [selectorName, String.length_append] at hlength
  omega

theorem batchSetterName_ne (a : String) : a ≠ batchSetterName a := by
  intro h
  have hlength := congrArg String.length h
  have hsuffix : "MultiSetter".length = 11 := by decide
  rw [batchSetterName, String.length_append, String.length_append] at hlength
  omega

theorem selectorName_ne_batchSetterName (a b : String) : selectorName a ≠ batchSetterName b := by
  intro h
  have hlast := congrArg (fun s : String => s.toList.getLast?) h
  have hd : "Field".toList.getLast? = some 'd' := by decide
  have hr : "MultiSetter".toList.getLast? = some 'r' := by decide
  simp [selectorName, batchSetterName, -String.reduceToList, List.getLast?_append, hd, hr] at hlast

/-- No entity has the name of a class that is made up for some entity. -/
def ClearOfClasses (v : Variant) (names : List String) : Prop :=
  ∀ a ∈ names, ∀ b ∈ names, a ≠ selectorName b ∧ (v = .extended → a ≠ batchSetterName b)

/-- No entity is named like a class of its own. -/
theorem clearOfClasses_iff {v : Variant} {names : List String} :
    ClearOfClasses v names ↔ ∀ a ∈ names, ∀ b ∈ names, a ≠ b →
      a ≠ selectorName b ∧ (v = .extended → a ≠ batchSetterName b) := by
  constructor
  · exact fun h a ha b hb _ => h a ha b hb
  · intro h a ha b hb
    by_cases hab : a = b
    · subst hab
      exact ⟨selectorName_ne a, fun _ => batchSetterName_ne a⟩
    · exact h a ha b hb hab

theorem mem_classNames {v : Variant} {x a : String} :
    x ∈ classNames v a ↔
      x = a ∨ x = selectorName a ∨ (v = .extended ∧ x = batchSetterName a) := by
  cases v <;> simp [classNames, Variant.hasBatchSetter]

theorem nodup_classNames (v : Variant) (a : String) : (classNames v a).Nodup := by
  have hne := selectorName_ne_batchSetterName a a
  cases v <;> simp [classNames, Variant.hasBatchSetter, selectorName_ne, batchSetterName_ne, hne]

theorem disjoint_classNames {v : Variant} {a b : String} (hab : a ≠ b)
    (h : ClearOfClasses v [a, b]) : (classNames v a).Disjoint (classNames v b) := by
  obtain ⟨hselector, hsetter⟩ := h a (by simp) b (by simp)
  obtain ⟨hselector', hsetter'⟩ := h b (by simp) a (by simp)
  intro x hxa hxb
  rcases mem_classNames.mp hxa with rfl | rfl | ⟨hv, rfl⟩
  · rcases mem_classNames.mp hxb with heq | heq | ⟨hv, heq⟩
    · exact hab heq
    · exact hselector heq
    · exact hsetter hv heq
  · rcases mem_classNames.mp hxb with heq | heq | ⟨-, heq⟩
    · exact hselector' heq.symm
    · exact hab (selectorName_inj.mp heq)
    · exact selectorName_ne_batchSetterName a b heq
  · rcases mem_classNames.mp hxb with heq | heq | ⟨-, heq⟩
    · exact hsetter' hv heq.symm
    · exact selectorName_ne_batchSetterName b a heq.symm
    · exact hab (batchSetterName_inj.mp heq)

theorem nodup_flatMap_classNames_iff (v : Variant) (names : List String) :
    (names.flatMap (classNames v)).Nodup ↔ names.Nodup ∧ ClearOfClasses v names := by
  rw [List.nodup_flatMap]
  constructor
  · rintro ⟨-, hdisjoint⟩
    have hself : ∀ a, a ∈ classNames v a := fun a => mem_classNames.mpr (.inl rfl)
    refine ⟨hdisjoint.imp fun {a b} h hab => h (hself a) (by rw [hab]; exact hself b), ?_⟩
    rw [clearOfClasses_iff]
    intro a ha b hb hab
    have hsymm : Std.Symm (Function.onFun List.Disjoint (classNames v)) :=
      ⟨fun _ _ h => List.Disjoint.symm h⟩
    have h : (classNames v a).Disjoint (classNames v b) := hdisjoint.forall ha hb hab
    refine ⟨fun heq => h (hself a) ?_, fun hv heq => h (hself a) ?_⟩
    · exact mem_classNames.mpr (.inr (.inl heq))
    · exact mem_classNames.mpr (.inr (.inr ⟨hv, heq⟩))
  · rintro ⟨hnodup, hclear⟩
    refine ⟨fun a _ => nodup_classNames v a, hnodup.pairwise_of_forall_ne ?_⟩
    intro a ha b hb hab
    apply disjoint_classNames hab
    intro c hc d hd
    have hmem : ∀ x ∈ [a, b], x ∈ names := by simp [ha, hb]
    exact hclear c (hmem c hc) d (hmem d hd)

theorem map_name_classes_compileUnit (options : Options) (unit : UnitName) (r : Registry) :
    ((compileUnit options unit r).filterMap Declaration.class?).map (·.name) =
      r.entityNames.flatMap (classNames options.variant) := by
  rw [classes_compileUnit, List.map_flatMap, Registry.entityNames, List.flatMap_map]
  simp only [map_name_entityClasses]

/-- The classes of a unit have different names exactly if the entities do, and no entity is named
like a selector or, in the extended layout, like a batch setter of another one. -/
theorem nodup_classes_compileUnit_iff (options : Options) (unit : UnitName) (r : Registry) :
    (((compileUnit options unit r).filterMap Declaration.class?).map (·.name)).Nodup ↔
      r.entityNames.Nodup ∧
      (∀ a ∈ r.entityNames, ∀ b ∈ r.entityNames, a ≠ b → a ≠ b ++ "Field") ∧
      (options.variant = .extended →
        ∀ a ∈ r.entityNames, ∀ b ∈ r.entityNames, a ≠ b → a ≠ "_" ++ b ++ "MultiSetter") := by
  rw [map_name_classes_compileUnit, nodup_flatMap_classNames_iff, clearOfClasses_iff]
  refine and_congr_right fun _ => ?_
  constructor
  · intro hclear
    exact ⟨fun a ha b hb hab => (hclear a ha b hb hab).1,
      fun hv a ha b hb hab => (hclear a ha b hb hab).2 hv⟩
  · rintro ⟨hselector, hsetter⟩ a ha b hb hab
    exact ⟨hselector a ha b hb hab, fun hv => hsetter hv a ha b hb hab⟩

theorem pairwise_holderAccessors_iff (ps : List Property) :
    (ps.flatMap holderAccessors).Pairwise Member.Compatible ↔ (ps.map (·.name)).Nodup := by
  rw [List.pairwise_flatMap, List.Nodup, List.pairwise_map]
  simp [holderAccessors, Member.Compatible, Member.declared?, Member.kind]

/-- A member other than an accessor meets the accessors of the values that have its name. -/
theorem compatible_holderAccessors_iff {m : Member} {name : String}
    (hm : m.declared? = some name) (hkind : m.isAccessor = false) (ps : List Property) :
    (∀ m' ∈ ps.flatMap holderAccessors, m.Compatible m') ↔ name ∉ ps.map (·.name) := by
  have hgetter : m.kind ≠ .getter := by simp_all [Member.isAccessor]
  have hsetter : m.kind ≠ .setter := by simp_all [Member.isAccessor]
  have hmeet : ∀ m', m.Compatible m' ↔ m'.declared? ≠ some name := by
    simp [Member.Compatible, hm, hgetter, hsetter, eq_comm]
  simp only [hmeet, List.forall_mem_flatMap]
  simp [holderAccessors, Member.declared?]

theorem Member.Compatible.symm {m m' : Member} (h : m.Compatible m') : m'.Compatible m := by
  rcases h with hnone | hne | ⟨hgetter, hsetter⟩ | ⟨hsetter, hgetter⟩
  · by_cases hnone' : m'.declared? = none
    · exact .inl hnone'
    · refine .inr (.inl ?_)
      rw [hnone]
      exact hnone'
  · exact .inr (.inl hne.symm)
  · exact .inr (.inr (.inr ⟨hsetter, hgetter⟩))
  · exact .inr (.inr (.inl ⟨hgetter, hsetter⟩))

theorem Member.pairwise_compatible_iff (ms : List Member) :
    ms.Pairwise Compatible ↔ (ms.filter (·.declared?.isSome)).Pairwise Compatible := by
  induction ms with
  | nil => rfl
  | cons m ms ih =>
      rw [List.pairwise_cons, ih]
      cases hm : m.declared? with
      | none =>
          rw [List.filter_cons_of_neg (by simp [hm])]
          exact and_iff_right fun m' _ => .inl hm
      | some name =>
          rw [List.filter_cons_of_pos (by simp [hm]), List.pairwise_cons]
          refine and_congr_left fun _ => ⟨fun h m' hm' => h m' (List.mem_of_mem_filter hm'), ?_⟩
          intro h m' hm'
          cases hnone : m'.declared? with
          | none => exact Compatible.symm (.inl hnone)
          | some name' => exact h m' (List.mem_filter.mpr ⟨hm', by simp [hnone]⟩)

theorem filter_holderAccessors (ps : List Property) :
    (ps.flatMap holderAccessors).filter (·.declared?.isSome) = ps.flatMap holderAccessors := by
  rw [List.filter_eq_self, List.forall_mem_flatMap]
  simp [holderAccessors, Member.declared?]

theorem pairwise_holder_iff (v : Variant) (entity : String) (ps : List Property) :
    (holder v entity ps).members.Pairwise Member.Compatible ↔
      (ps.map (·.name)).Nodup ∧ "_instance" ∉ ps.map (·.name) ∧
        (v = .extended → "fields" ∉ ps.map (·.name) ∧ "multiSet" ∉ ps.map (·.name)) := by
  rw [Member.pairwise_compatible_iff]
  cases v with
  | basic =>
      have hmembers : (holder .basic entity ps).members.filter (·.declared?.isSome) =
          .field (some "static") (some (entity ++ "?")) "_instance" none ::
            ps.flatMap holderAccessors := by
        change (basicHead entity ps ++ ps.flatMap holderAccessors).filter _ = _
        rw [List.filter_append, filter_holderAccessors]
        rfl
      rw [hmembers, List.pairwise_cons, pairwise_holderAccessors_iff,
        compatible_holderAccessors_iff rfl rfl]
      simp [and_comm]
  | extended =>
      have hmembers : ((holder .extended entity ps).members.filter (·.declared?.isSome)).Perm
          (.field (some "static final") (some entity) "_instance"
              (some (entity ++ "._internal()")) ::
            .method (some "static") (selectorName entity) "fields" ""
              (.arrow (selectorName entity ++ "()")) ::
            multiSet entity :: ps.flatMap holderAccessors) := by
        change ((extendedHead entity ps ++ ps.flatMap holderAccessors ++
          [multiSet entity]).filter _).Perm _
        rw [List.filter_append, List.filter_append, filter_holderAccessors]
        exact ((List.perm_append_singleton _ _).cons _).cons _
      rw [hmembers.pairwise_iff Member.Compatible.symm]
      simp only [List.pairwise_cons, List.forall_mem_cons, pairwise_holderAccessors_iff]
      rw [compatible_holderAccessors_iff rfl rfl, compatible_holderAccessors_iff rfl rfl,
        compatible_holderAccessors_iff rfl rfl]
      constructor
      · rintro ⟨⟨-, -, hinstance⟩, ⟨-, hfields⟩, hmultiSet, hnodup⟩
        exact ⟨hnodup, hinstance, fun _ => ⟨hfields, hmultiSet⟩⟩
      · rintro ⟨hnodup, hinstance, hclear⟩
        obtain ⟨hfields, hmultiSet⟩ := hclear trivial
        refine ⟨⟨.inr (.inl ?_), .inr (.inl ?_), hinstance⟩, ⟨.inr (.inl ?_), hfields⟩,
          hmultiSet, hnodup⟩
        all_goals simp [Member.declared?, multiSet]

theorem pairwise_selector_iff (entity : String) (ps : List Property) :
    (selector entity ps).members.Pairwise Member.Compatible ↔ (ps.map (·.name)).Nodup := by
  rw [selector, List.pairwise_map, List.Nodup, List.pairwise_map]
  simp [Member.Compatible, Member.declared?, Member.kind]

theorem pairwise_batchSetter_iff (entity : String) (ps : List Property) :
    (batchSetter entity ps).members.Pairwise Member.Compatible ↔
      (ps.map (·.name)).Nodup ∧ "_map" ∉ ps.map (·.name) := by
  rw [batchSetter, List.pairwise_cons, List.forall_mem_map, List.pairwise_map, List.Nodup,
    List.pairwise_map]
  have hmap : (∀ p ∈ ps, "_map" ≠ p.name) ↔ "_map" ∉ ps.map (·.name) := by
    simp [eq_comm (a := "_map")]
  rw [← hmap, and_comm]
  simp [Member.Compatible, Member.declared?, Member.kind]

theorem pairwise_entityClasses_iff (v : Variant) (e : Entity) :
    (∀ c ∈ entityClasses v e, c.members.Pairwise Member.Compatible) ↔
      e.attributeNames.Nodup ∧ ∀ name ∈ madeUpMembers v, name ∉ e.attributeNames := by
  have hnames : (e.attributes.map (Property.ofAttribute v)).map (·.name) = e.attributeNames := by
    rw [List.map_map]
    rfl
  have hholder := pairwise_holder_iff v e.name (e.attributes.map (Property.ofAttribute v))
  have hselector := pairwise_selector_iff e.name (e.attributes.map (Property.ofAttribute v))
  have hsetter := pairwise_batchSetter_iff e.name (e.attributes.map (Property.ofAttribute v))
  rw [hnames] at hholder hselector hsetter
  cases v with
  | basic =>
      simp only [entityClasses, Variant.hasBatchSetter, List.forall_mem_append,
        List.forall_mem_cons, hholder, hselector]
      simp [madeUpMembers, and_comm]
  | extended =>
      simp only [entityClasses, Variant.hasBatchSetter, List.forall_mem_append, if_true,
        List.forall_mem_cons, hholder, hselector, hsetter]
      simp [madeUpMembers]
      tauto

theorem noConflict_iff (options : Options) (unit : UnitName) (r : Registry) :
    NoConflict (compileUnit options unit r) ↔
      (r.entityNames.Nodup ∧ ClearOfClasses options.variant r.entityNames) ∧
        ∀ e ∈ r.entities, e.attributeNames.Nodup ∧
          ∀ name ∈ madeUpMembers options.variant, name ∉ e.attributeNames := by
  have hclasses : ((compileUnit options unit r).filterMap Declaration.class?).Pairwise
      (fun c c' => c.name ≠ c'.name) ↔
        (r.entityNames.flatMap (classNames options.variant)).Nodup := by
    rw [← map_name_classes_compileUnit options unit, List.Nodup, List.pairwise_map]
  rw [NoConflict, hclasses, nodup_flatMap_classNames_iff, classes_compileUnit,
    List.forall_mem_flatMap]
  simp only [pairwise_entityClasses_iff]

/-- When a check finds no error, the names that conflict are those that are made up: a class is
named after a class of another entity, or an attribute after a member of every entity. -/
theorem noConflict_iff_clear (options : Options) (unit : UnitName) (r : Registry)
    (h : ∀ d ∈ Check.all r, d.isError = false) :
    NoConflict (compileUnit options unit r) ↔
      ClearOfClasses options.variant r.entityNames ∧
        ∀ e ∈ r.entities, ∀ name ∈ madeUpMembers options.variant, name ∉ e.attributeNames := by
  obtain ⟨hentities, hclean⟩ := (Check.forall_all_iff r).mp h
  rw [noConflict_iff, and_iff_right hentities]
  refine and_congr_right fun _ => ⟨fun hmembers e he => (hmembers e he).2, ?_⟩
  intro hmembers e he
  exact ⟨(hclean e he).1, hmembers e he⟩

def counters : Registry :=
  ⟨[⟨"Counter", [⟨"count", .integer, none⟩, ⟨"label", .text, some "n/a"⟩]⟩]⟩

theorem noConflict_counters :
    (∀ d ∈ Check.all counters, d.isError = false) ∧
      NoConflict (compileUnit {} ⟨"counters"⟩ counters) := by
  have h : ∀ d ∈ Check.all counters, d.isError = false := by decide
  refine ⟨h, (noConflict_iff_clear {} ⟨"counters"⟩ counters h).mpr ⟨?_, ?_⟩⟩
  · rintro a ha b hb
    obtain rfl : a = "Counter" := List.mem_singleton.mp ha
    obtain rfl : b = "Counter" := List.mem_singleton.mp hb
    exact ⟨selectorName_ne _, fun _ => batchSetterName_ne _⟩
  · decide

/-- An entity with the name of the selector of another. -/
def shadowed : Registry :=
  ⟨[⟨"A", [⟨"x", .integer, none⟩]⟩, ⟨"AField", [⟨"x", .integer, none⟩]⟩]⟩

theorem not_noConflict_shadowed :
    (∀ d ∈ Check.all shadowed, d.isError = false) ∧
      ∀ options unit, ¬ NoConflict (compileUnit options unit shadowed) := by
  refine ⟨by decide, fun options unit hconflict => ?_⟩
  obtain ⟨⟨-, hclear⟩, -⟩ := (noConflict_iff options unit shadowed).mp hconflict
  have hentities : shadowed.entityNames = ["A", "AField"] := rfl
  rw [hentities] at hclear
  exact (hclear "AField" (by simp) "A" (by simp)).1 rfl

end DartTriggers.Dart
