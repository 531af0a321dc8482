import DartTriggers.Proofs.Dart.Quoting
import DartTriggers.Proofs.Dart.Unambiguous
import DartTriggers.Proofs.Descriptor.RoundTrip
/-!
The code of a registry that has been written and read back. It is the code of the registry itself
unless an attribute has a type of its own that is written like a built-in one and stands for another
Dart type. The two texts are compared from the first character on: up to the first literal or type
that differs they are the same, and there they part, whatever comes after it.
-/

namespace DartTriggers

namespace AttributeType

/-- The tags of types of their own that stand for another Dart type when they are read back. -/
def mistakenTags : Variant → List String
  | .basic => ["str", "string", "text", "integer", "boolean", "double"]
  | .extended => ["str", "string", "text", "integer", "boolean", "float"]

theorem mem_builtinTags_of_mem_mistakenTags {s : String} {v : Variant} (h : s ∈ mistakenTags v) :
    s ∈ builtinTags := by
  have hsubset : ∀ t ∈ mistakenTags v, t ∈ builtinTags := by cases v <;> decide
  exact hsubset s h

theorem token_normalized_eq_iff (t : AttributeType) (v : Variant) :
    t.normalized.token v = t.token v ↔ ∀ s, t = .other s → s ∉ mistakenTags v := by
  cases t with
  | other s =>
      simp only [other.injEq, forall_eq']
      by_cases hs : s ∈ builtinTags
      · simp only [builtinTags, List.mem_cons, List.not_mem_nil, or_false] at hs
        rcases hs with rfl | rfl | rfl | rfl | rfl | rfl | rfl | rfl | rfl | rfl <;>
          cases v <;> decide
      · have hnormalized : (other s).normalized = other s := ofTag_eq_other_iff.mpr hs
        rw [hnormalized]
        exact iff_of_true rfl fun hmistaken => hs (mem_builtinTags_of_mem_mistakenTags hmistaken)
  | _ => cases v <;> simp [normalized, tag, ofTag, token, Variant.mapsAllPrimitives]

theorem isText_normalized {t : AttributeType} (h : t.isText = true) :
    t.normalized.isText = true := by
  cases t with
  | other s =>
      obtain rfl : s = "String" := by simpa [isText] using h
      decide
  | _ => exact h

/-- Where the Dart types differ, neither begins with the other one and a blank. -/
theorem token_normalized_inj {t : AttributeType} {v : Variant} {r r' : List Char}
    (h : (t.token v).toList ++ ' ' :: r = (t.normalized.token v).toList ++ ' ' :: r') :
    t.token v = t.normalized.token v := by
  by_contra hne
  have hmistaken : ¬ ∀ s, t = .other s → s ∉ mistakenTags v :=
    fun hall => hne ((token_normalized_eq_iff t v).mpr hall).symm
  push Not at hmistaken
  obtain ⟨s, rfl, hs⟩ := hmistaken
  cases v <;> simp only [mistakenTags, List.mem_cons, List.not_mem_nil, or_false] at hs <;>
    rcases hs with rfl | rfl | rfl | rfl | rfl | rfl <;>
    simp [normalized, tag, ofTag, token, Variant.mapsAllPrimitives] at h

end AttributeType

namespace Attribute

theorem literal_normalized_inj {a : Attribute} {r r' : List Char}
    (h : a.literal.toList ++ ';' :: r = a.normalized.literal.toList ++ ';' :: r') :
    a.literal = a.normalized.literal := by
  obtain ⟨name, type, _ | value⟩ := a
  · rfl
  · have hnormalized : (⟨name, type, some value⟩ : Attribute).normalized =
        ⟨name, type.normalized, some value⟩ := rfl
    rw [hnormalized, literal_some, literal_some] at h ⊢
    cases htext : type.isText with
    | true => rw [AttributeType.isText_normalized htext]
    | false =>
        cases htext' : type.normalized.isText with
        | true =>
            rw [htext, htext'] at h
            exact absurd h (Dart.plainLiteral_ne_quoted value r r')
        | false => rfl

theorem literal_normalized_of_token {a : Attribute} {v : Variant}
    (h : a.type.normalized.token v = a.type.token v) : a.normalized.literal = a.literal := by
  have htext : a.type.normalized.isText = a.type.isText := by
    rw [AttributeType.isText_eq _ v, AttributeType.isText_eq _ v, h]
  simp only [literal, normalized, htext]

end Attribute

namespace Dart

open Layout (lines margin)

theorem ofAttribute_normalized_eq_iff (v : Variant) (a : Attribute) :
    Property.ofAttribute v a.normalized = Property.ofAttribute v a ↔
      ∀ s, a.type = .other s → s ∉ AttributeType.mistakenTags v := by
  rw [← AttributeType.token_normalized_eq_iff]
  constructor
  · exact fun h => congrArg Property.type h
  · intro h
    have htoken : a.normalized.type.token v = a.type.token v := h
    simp only [Property.ofAttribute, htoken, Attribute.literal_normalized_of_token h]
    rfl

/-- Two properties with one name whose literals and types are told apart by a text that goes on with
them. -/
structure Property.Parted (p p' : Property) : Prop where
  name : p.name = p'.name
  literal : ∀ r r' : List Char, p.literal.toList ++ ';' :: r = p'.literal.toList ++ ';' :: r' →
    p.literal = p'.literal
  type : ∀ r r' : List Char, p.type.toList ++ ' ' :: r = p'.type.toList ++ ' ' :: r' →
    p.type = p'.type
  nullable : p.type = p'.type → p.nullable = p'.nullable

theorem parted_normalized (v : Variant) (a : Attribute) :
    (Property.ofAttribute v a).Parted (Property.ofAttribute v a.normalized) where
  name := rfl
  literal _ _ := Attribute.literal_normalized_inj
  type _ _ := AttributeType.token_normalized_inj
  nullable h := congrArg isNullable h

theorem properties_normalized (v : Variant) (e : Entity) :
    properties v e.normalized = e.attributes.map fun a => Property.ofAttribute v a.normalized := by
  simp [properties, Entity.normalized]

theorem forall₂_parted_properties (v : Variant) (e : Entity) :
    List.Forall₂ Property.Parted (properties v e) (properties v e.normalized) := by
  rw [properties_normalized, properties, List.forall₂_map_left_iff, List.forall₂_map_right_iff,
    List.forall₂_same]
  exact fun a _ => parted_normalized v a

theorem unlines_initializer_inj {ps ps' : List Property} (h : List.Forall₂ Property.Parted ps ps')
    {r r' : List Char}
    (heq : unlines ((initializer ps).map (margin 2 ++ ·)) ++ r =
      unlines ((initializer ps').map (margin 2 ++ ·)) ++ r') :
    ps.map (·.literal) = ps'.map (·.literal) ∧ r = r' := by
  have hline : ∀ (q : Property) (qs : List Property) (s : List Char),
      unlines ((initializer (q :: qs)).map (margin 2 ++ ·)) ++ s =
        (margin 2 ++ q.name ++ " = ").toList ++ (q.literal.toList ++ ';' :: '\n' ::
          (unlines ((initializer qs).map (margin 2 ++ ·)) ++ s)) := by
    intro q qs s
    simp [initializer, unlines_cons]
  induction h with
  | nil => exact ⟨rfl, heq⟩
  | @cons p p' ps ps' hp hps ih =>
      rw [hline, hline, hp.name] at heq
      have hliteral := hp.literal _ _ (List.append_cancel_left heq)
      rw [hliteral] at heq
      simp only [List.append_cancel_left_eq, List.cons.injEq, true_and] at heq
      obtain ⟨hmap, hrest⟩ := ih heq
      exact ⟨by rw [List.map_cons, List.map_cons, hliteral, hmap], hrest⟩

theorem unlines_constructorLines_inj {name : String} {ps ps' : List Property}
    (h : List.Forall₂ Property.Parted ps ps') {r r' : List Char}
    (heq : unlines (constructorLines name ps) ++ r = unlines (constructorLines name ps') ++ r') :
    ps.map (·.literal) = ps'.map (·.literal) ∧ r = r' := by
  cases h with
  | nil => exact ⟨rfl, List.append_cancel_left heq⟩
  | cons hp hps =>
      rw [constructorLines_cons, constructorLines_cons, unlines_cons, unlines_cons, unlines_append,
        unlines_append] at heq
      simp only [List.append_assoc, List.cons_append, List.append_cancel_left_eq, List.cons.injEq,
        true_and] at heq
      obtain ⟨hmap, hrest⟩ := unlines_initializer_inj (.cons hp hps) heq
      exact ⟨hmap, List.append_cancel_left hrest⟩

theorem unlines_accessorLines_inj {p p' : Property} (hp : p.Parted p')
    (hliteral : p.literal = p'.literal) {r r' : List Char}
    (heq : unlines (accessorLines p) ++ r = unlines (accessorLines p') ++ r') : p = p' := by
  have hline : ∀ (q : Property) (s : List Char), ∃ t,
      unlines (accessorLines q) ++ s = (margin 1).toList ++ (q.type.toList ++ ' ' :: t) := by
    intro q s
    exact ⟨_, by simp [accessorLines, unlines_cons]; rfl⟩
  obtain ⟨t, ht⟩ := hline p r
  obtain ⟨t', ht'⟩ := hline p' r'
  rw [ht, ht'] at heq
  have htype := hp.type _ _ (List.append_cancel_left heq)
  have hname := hp.name
  have hnullable := hp.nullable htype
  cases p
  cases p'
  simp_all

theorem unlines_flatMap_accessorLines_inj {ps ps' : List Property}
    (h : List.Forall₂ Property.Parted ps ps')
    (hliteral : ps.map (·.literal) = ps'.map (·.literal)) {r r' : List Char}
    (heq : unlines (ps.flatMap accessorLines) ++ r = unlines (ps'.flatMap accessorLines) ++ r') :
    ps = ps' := by
  induction h with
  | nil => rfl
  | @cons p p' ps ps' hp hps ih =>
      obtain ⟨hfirst, htail⟩ := List.cons.inj hliteral
      rw [List.flatMap_cons, List.flatMap_cons, unlines_append, unlines_append, List.append_assoc,
        List.append_assoc] at heq
      obtain rfl := unlines_accessorLines_inj hp hfirst heq
      rw [ih htail (List.append_cancel_left heq)]

theorem unlines_stepsAfter_factory_inj {name : String} {body : Body} {ps ps' : List Property}
    {tail : List Member} (h : List.Forall₂ Property.Parted ps ps')
    (hliteral : ps.map (·.literal) = ps'.map (·.literal)) {r r' : List Char}
    (heq : unlines (lines 1 (Member.stepsAfter (.factory name body)
          (ps.flatMap holderAccessors ++ tail))) ++ r =
      unlines (lines 1 (Member.stepsAfter (.factory name body)
          (ps'.flatMap holderAccessors ++ tail))) ++ r') : ps = ps' := by
  cases h with
  | nil => rfl
  | @cons p p' ps ps' hp hps =>
      obtain ⟨more, hmore⟩ := lines_stepsAfter_factory name body p ps tail
      obtain ⟨more', hmore'⟩ := lines_stepsAfter_factory name body p' ps' tail
      rw [hmore, hmore', unlines_cons, unlines_cons, unlines_append, unlines_append] at heq
      simp only [List.append_assoc, List.append_cancel_left_eq, List.cons_append, List.cons.injEq,
        true_and] at heq
      exact unlines_flatMap_accessorLines_inj (.cons hp hps) hliteral heq

/-- The literals are told apart in the constructor, and the types in the accessors after it. -/
theorem unlines_entityLines_inj {v : Variant} {entity : String} {ps ps' : List Property}
    (h : List.Forall₂ Property.Parted ps ps') {r r' : List Char}
    (heq : unlines (entityLines v entity ps) ++ r = unlines (entityLines v entity ps') ++ r') :
    ps = ps' := by
  simp only [entityLines, lines_holder, List.cons_append, unlines_cons, unlines_append,
    List.append_assoc, List.append_cancel_left_eq, List.cons.injEq, true_and] at heq
  obtain ⟨before, name, between, factory, body, tail, hholder⟩ := exists_lines_holder v entity
  rw [hholder, hholder] at heq
  simp only [unlines_append, List.append_assoc, List.append_cancel_left_eq] at heq
  obtain ⟨hliteral, hrest⟩ := unlines_constructorLines_inj h heq
  rw [List.append_cancel_left_eq] at hrest
  exact unlines_stepsAfter_factory_inj h hliteral hrest

/-- The induction is on the entities: the code of one that is not changed is the same, so that the
next one can be compared. -/
theorem unlines_flatMap_entityLines_normalized_iff {v : Variant} {es : List Entity} :
    unlines ((es.map Entity.normalized).flatMap fun e =>
        entityLines v e.name (properties v e)) =
      unlines (es.flatMap fun e => entityLines v e.name (properties v e)) ↔
      ∀ e ∈ es, properties v e.normalized = properties v e := by
  induction es with
  | nil => simp
  | cons e es ih =>
      have hname : e.normalized.name = e.name := rfl
      rw [List.map_cons, List.flatMap_cons, List.flatMap_cons, unlines_append, unlines_append,
        List.forall_mem_cons, ← ih, hname]
      constructor
      · intro heq
        have he := unlines_entityLines_inj (forall₂_parted_properties v e) heq.symm
        rw [he] at heq
        exact ⟨he.symm, List.append_cancel_left heq⟩
      · rintro ⟨he, hes⟩
        rw [he, hes]

theorem generateUnit_normalized_eq_iff (options : Options) (unit : UnitName) (r : Registry) :
    generateUnit options unit r.normalized = generateUnit options unit r ↔
      ∀ e ∈ r.entities, ∀ a ∈ e.attributes, ∀ s, a.type = .other s →
        s ∉ AttributeType.mistakenTags options.variant := by
  rw [← String.toList_inj, toList_generateUnit, toList_generateUnit, List.append_cancel_left_eq,
    Registry.normalized, unlines_flatMap_entityLines_normalized_iff]
  refine forall₂_congr fun e _ => ?_
  rw [properties_normalized, properties, List.map_inj_left]
  exact forall₂_congr fun a _ => ofAttribute_normalized_eq_iff options.variant a

/-- A registry that is written, in either layout, is read back, and what is read generates the same
code exactly if no attribute has a type of its own with a mistaken tag. -/
theorem generateUnit_ofText_text_eq_iff (isPretty : Bool) (options : Options) (unit : UnitName)
    (r : Registry) :
    ∃ loaded, Registry.ofText (r.toJson.text isPretty) = .ok loaded ∧
      (generateUnit options unit loaded.value = generateUnit options unit r ↔
        ∀ e ∈ r.entities, ∀ a ∈ e.attributes, ∀ s, a.type = .other s →
          s ∉ AttributeType.mistakenTags options.variant) := by
  have hread := Registry.map_value_ofText_text isPretty r
  cases hloaded : Registry.ofText (r.toJson.text isPretty) with
  | error e =>
      rw [hloaded] at hread
      cases hread
  | ok loaded =>
      rw [hloaded] at hread
      have hvalue : loaded.value = r.normalized := Except.ok.inj hread
      refine ⟨loaded, rfl, ?_⟩
      rw [hvalue]
      exact generateUnit_normalized_eq_iff options unit r

end Dart

end DartTriggers
