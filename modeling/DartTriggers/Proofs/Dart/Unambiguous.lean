import Mathlib.Data.List.Forall2
import DartTriggers.Check.Rule
import DartTriggers.Dart.Compile
import DartTriggers.Proofs.Dart.Printed
/-!
Nothing is lost when a unit is generated: the names of its entities, and the names, Dart types and
literals of their attributes, are known from the text. The lines are read from the first on. The
header of a class tells the entity, the body of its constructor the names and literals, and the
setters that follow the types.
-/

namespace DartTriggers

/-- The names of an entity are identifiers, and nothing else in it goes over several lines. -/
def Entity.Legible (e : Entity) : Prop :=
  Check.isIdentifier e.name = true ∧ ∀ a ∈ e.attributes,
    Check.isIdentifier a.name = true ∧ Dart.OneLine a.type.tag ∧
      ∀ value ∈ a.default, Dart.OneLine value

instance (e : Entity) : Decidable e.Legible :=
  inferInstanceAs (Decidable (_ ∧ _))

namespace Dart

open Layout (lines levelAfter lines_append levelAfter_append margin)

theorem not_mem_of_isIdentifier {name : String} (h : Check.isIdentifier name = true) {c : Char}
    (hc : Check.isIdentifierPart c = false) : c ∉ name.toList := by
  unfold Check.isIdentifier at h
  split at h
  · exact absurd h Bool.false_ne_true
  · rename_i first rest hname
    rw [Bool.and_eq_true, List.all_eq_true] at h
    have hfirst : Check.isIdentifierPart first = true := by
      rw [Check.isIdentifierPart, h.1, Bool.true_or]
    intro hmem
    rw [hname] at hmem
    have hpart : Check.isIdentifierPart c = true := by
      rcases List.mem_cons.mp hmem with rfl | hmem
      · exact hfirst
      · exact h.2 c hmem
    rw [hc] at hpart
    exact absurd hpart Bool.false_ne_true

theorem oneLine_of_isIdentifier {name : String} (h : Check.isIdentifier name = true) :
    OneLine name :=
  not_mem_of_isIdentifier h (by decide)

def properties (v : Variant) (e : Entity) : List Property :=
  e.attributes.map (Property.ofAttribute v)

/-- What the lines of a property can be read by: the name is an identifier, and the type tells
whether it allows null. -/
def Property.Legible (p : Property) : Prop :=
  ' ' ∉ p.name.toList ∧ p.nullable = isNullable p.type

theorem legible_properties {v : Variant} {e : Entity} (h : e.Legible) :
    ∀ p ∈ properties v e, p.Legible := by
  rw [properties, List.forall_mem_map]
  exact fun a ha => ⟨not_mem_of_isIdentifier (h.2 a ha).1 (by decide), rfl⟩

theorem initializer_inj {p p' : Property} (hp : ' ' ∉ p.name.toList) (hp' : ' ' ∉ p'.name.toList)
    (h : margin 2 ++ (p.name ++ " = " ++ p.literal ++ ";") =
      margin 2 ++ (p'.name ++ " = " ++ p'.literal ++ ";")) :
    p.name = p'.name ∧ p.literal = p'.literal := by
  have hlists : p.name.toList ++ ' ' :: ("= ".toList ++ (p.literal ++ ";").toList) =
      p'.name.toList ++ ' ' :: ("= ".toList ++ (p'.literal ++ ";").toList) := by
    simpa [String.ext_iff] using h
  obtain ⟨hname, hrest⟩ := append_cons_inj hp hp' hlists
  have hliteral : p.literal ++ ";" = p'.literal ++ ";" :=
    String.toList_inj.mp (List.append_cancel_left hrest)
  exact ⟨String.toList_inj.mp hname, by simpa using hliteral⟩

/-- The line that ends the body of a constructor is not one of its assignments. -/
theorem initializer_ne_close (text : String) : margin 2 ++ text ≠ margin 1 ++ "\x7d" := by
  intro h
  have hlists := congrArg String.toList h
  simp [margin] at hlists

theorem map_initializer_inj {ps ps' : List Property} {rest rest' : List String}
    (hps : ∀ p ∈ ps, p.Legible) (hps' : ∀ p ∈ ps', p.Legible)
    (h : (initializer ps).map (margin 2 ++ ·) ++ (margin 1 ++ "\x7d") :: rest =
      (initializer ps').map (margin 2 ++ ·) ++ (margin 1 ++ "\x7d") :: rest') :
    ps.map (fun p => (p.name, p.literal)) = ps'.map (fun p => (p.name, p.literal)) ∧
      rest = rest' := by
  induction ps generalizing ps' with
  | nil =>
      cases ps' with
      | nil => exact ⟨rfl, (List.cons.inj h).2⟩
      | cons p' ps' => exact absurd (List.cons.inj h).1.symm (initializer_ne_close _)
  | cons p ps ih =>
      cases ps' with
      | nil => exact absurd (List.cons.inj h).1 (initializer_ne_close _)
      | cons p' ps' =>
          rw [List.forall_mem_cons] at hps hps'
          obtain ⟨hline, hrest⟩ := List.cons.inj h
          obtain ⟨hname, hliteral⟩ := initializer_inj hps.1.1 hps'.1.1 hline
          obtain ⟨hmap, hrest⟩ := ih hps.2 hps'.2 hrest
          rw [List.map_cons, List.map_cons, hname, hliteral, hmap]
          exact ⟨rfl, hrest⟩

def constructorLines (name : String) (ps : List Property) : List String :=
  lines 1 (Member.constructor name (.block (initializer ps))).steps

theorem constructorLines_nil (name : String) :
    constructorLines name [] = [margin 1 ++ (name ++ "()" ++ " \x7b\x7d")] := rfl

theorem constructorLines_cons (name : String) (p : Property) (ps : List Property) :
    constructorLines name (p :: ps) = (margin 1 ++ (name ++ "()" ++ " \x7b")) ::
      ((initializer (p :: ps)).map (margin 2 ++ ·) ++ [margin 1 ++ "\x7d"]) := by
  change lines 1 ([_, .indent] ++ (initializer (p :: ps)).map .line ++ [.dedent, _]) = _
  rw [lines_append, lines_append, levelAfter_append, Body.levelAfter_map_line]
  change [margin 1 ++ _] ++ lines 2 _ ++ [margin 1 ++ "\x7d"] = _
  rw [Body.lines_map_line]
  rfl

theorem constructorLines_inj {name : String} {ps ps' : List Property} {rest rest' : List String}
    (hps : ∀ p ∈ ps, p.Legible) (hps' : ∀ p ∈ ps', p.Legible)
    (h : constructorLines name ps ++ rest = constructorLines name ps' ++ rest') :
    ps.map (fun p => (p.name, p.literal)) = ps'.map (fun p => (p.name, p.literal)) ∧
      rest = rest' := by
  have hopen : margin 1 ++ (name ++ "()" ++ " \x7b\x7d") ≠
      margin 1 ++ (name ++ "()" ++ " \x7b") := by
    simp [String.ext_iff]
  cases ps with
  | nil =>
      cases ps' with
      | nil => exact ⟨rfl, (List.cons.inj h).2⟩
      | cons p' ps' =>
          rw [constructorLines_nil, constructorLines_cons] at h
          exact absurd (List.cons.inj h).1 hopen
  | cons p ps =>
      cases ps' with
      | nil =>
          rw [constructorLines_nil, constructorLines_cons] at h
          exact absurd (List.cons.inj h).1.symm hopen
      | cons p' ps' =>
          rw [constructorLines_cons, constructorLines_cons, List.cons_append, List.cons_append,
            List.append_assoc, List.append_assoc] at h
          exact map_initializer_inj hps hps' (List.cons.inj h).2

def accessorLines (p : Property) : List String :=
  [margin 1 ++ (p.type ++ " get " ++ p.name ++ " => " ++ p.readExpression ++ ";"),
    margin 1 ++ ("set " ++ p.name ++ "(" ++ p.type ++ " " ++ "val" ++ ")" ++ " => " ++
      ("setValue('" ++ p.name ++ "', val)") ++ ";")]

theorem accessorLines_inj {p p' : Property} (hp : p.Legible) (hp' : p'.Legible)
    (hname : p.name = p'.name) (hliteral : p.literal = p'.literal)
    (h : accessorLines p = accessorLines p') : p = p' := by
  have hsetter := (List.cons.inj (List.cons.inj h).2).1
  have htype : p.type = p'.type := by
    rw [hname] at hsetter
    simpa [String.ext_iff] using hsetter
  have hnullable : p.nullable = p'.nullable := by
    rw [hp.2, hp'.2, htype]
  cases p
  cases p'
  exact Property.mk.injEq .. ▸ ⟨hname, htype, hliteral, hnullable⟩

theorem flatMap_accessorLines_inj {ps ps' : List Property} {rest rest' : List String}
    (hps : ∀ p ∈ ps, p.Legible) (hps' : ∀ p ∈ ps', p.Legible)
    (hmap : ps.map (fun p => (p.name, p.literal)) = ps'.map (fun p => (p.name, p.literal)))
    (h : ps.flatMap accessorLines ++ rest = ps'.flatMap accessorLines ++ rest') : ps = ps' := by
  induction ps generalizing ps' with
  | nil => exact (List.map_eq_nil_iff.mp hmap.symm).symm
  | cons p ps ih =>
      cases ps' with
      | nil => exact absurd hmap (List.cons_ne_nil _ _)
      | cons p' ps' =>
          rw [List.forall_mem_cons] at hps hps'
          obtain ⟨hpair, hmap⟩ := List.cons.inj hmap
          obtain ⟨hname, hliteral⟩ := Prod.mk.inj hpair
          rw [List.flatMap_cons, List.flatMap_cons, List.append_assoc, List.append_assoc] at h
          -- Whatever the property, its accessors take as many lines.
          obtain ⟨haccessors, hrest⟩ := List.append_inj h rfl
          rw [accessorLines_inj hps.1 hps'.1 hname hliteral haccessors, ih hps.2 hps'.2 hmap hrest]

theorem lines_stepsAfter_setter (p : Property) (ps : List Property) (tail : List Member) :
    ∃ rest, lines 1 (Member.stepsAfter
        (.setter p.name p.type "val" (.arrow ("setValue('" ++ p.name ++ "', val)")))
        (ps.flatMap holderAccessors ++ tail)) = ps.flatMap accessorLines ++ rest := by
  induction ps generalizing p with
  | nil => exact ⟨_, rfl⟩
  | cons p' ps ih =>
      obtain ⟨rest, hrest⟩ := ih p'
      refine ⟨rest, ?_⟩
      rw [List.flatMap_cons, List.append_assoc, List.flatMap_cons, List.append_assoc, ← hrest]
      rfl

theorem lines_stepsAfter_factory (name : String) (body : Body) (p : Property) (ps : List Property)
    (tail : List Member) :
    ∃ rest, lines 1 (Member.stepsAfter (.factory name body)
        ((p :: ps).flatMap holderAccessors ++ tail)) =
      "" :: ((p :: ps).flatMap accessorLines ++ rest) := by
  obtain ⟨rest, hrest⟩ := lines_stepsAfter_setter p ps tail
  refine ⟨rest, ?_⟩
  rw [List.flatMap_cons, List.append_assoc, List.flatMap_cons, List.append_assoc, ← hrest]
  rfl

theorem stepsAfter_factory_inj {name : String} {body : Body} {ps ps' : List Property}
    {tail : List Member} {rest rest' : List String}
    (hps : ∀ p ∈ ps, p.Legible) (hps' : ∀ p ∈ ps', p.Legible)
    (hmap : ps.map (fun p => (p.name, p.literal)) = ps'.map (fun p => (p.name, p.literal)))
    (h : lines 1 (Member.stepsAfter (.factory name body) (ps.flatMap holderAccessors ++ tail)) ++
        rest =
      lines 1 (Member.stepsAfter (.factory name body) (ps'.flatMap holderAccessors ++ tail)) ++
        rest') : ps = ps' := by
  cases ps with
  | nil => exact (List.map_eq_nil_iff.mp hmap.symm).symm
  | cons p ps =>
      cases ps' with
      | nil => exact absurd hmap (List.cons_ne_nil _ _)
      | cons p' ps' =>
          obtain ⟨more, hmore⟩ := lines_stepsAfter_factory name body p ps tail
          obtain ⟨more', hmore'⟩ := lines_stepsAfter_factory name body p' ps' tail
          rw [hmore, hmore', List.cons_append, List.cons_append, List.append_assoc,
            List.append_assoc] at h
          exact flatMap_accessorLines_inj hps hps' hmap (List.cons.inj h).2

def holderHeader (v : Variant) (entity : String) : String :=
  margin 0 ++ (spaced (if v.hasBatchSetter then some "base" else none) ++ "class " ++ entity ++
    (" extends " ++ "Trigger") ++ " \x7b")

theorem holderHeader_inj {v : Variant} {entity entity' : String}
    (h : holderHeader v entity = holderHeader v entity') : entity = entity' := by
  simpa [holderHeader, String.ext_iff] using h

/-- The lines at the head of a holder. Apart from those of the constructor they depend on the name
of the entity only. -/
theorem exists_lines_holder (v : Variant) (entity : String) :
    ∃ before name between factory body tail, ∀ ps,
      lines 1 (Member.allSteps (holder v entity ps).members) =
        before ++ (constructorLines name ps ++ (between ++
          lines 1 (Member.stepsAfter (.factory factory body)
            (ps.flatMap holderAccessors ++ tail)))) := by
  cases v with
  | basic =>
      refine ⟨lines 1 (Member.allSteps ((basicHead entity []).take 1)) ++ [""],
        entity ++ "._create", lines 1 (Member.stepsAfter (.constructor "" (.block []))
          ((basicHead entity []).drop 2)), entity,
        .block ["return _instance ??= " ++ entity ++ "._create();"], [], fun ps => ?_⟩
      change lines 1 (Member.allSteps (basicHead entity ps ++ ps.flatMap holderAccessors)) = _
      simp only [basicHead, List.cons_append, List.nil_append, List.append_nil, Member.allSteps,
        List.take, List.drop, lines_append, Member.levelAfter_steps, lines_stepsAfter_cons,
        constructorLines]
      simp [Member.needsSeparator, Member.kind, Member.isAccessor, Member.stepsAfter, lines]
  | extended =>
      refine ⟨lines 1 (Member.allSteps ((extendedHead entity []).take 2)) ++ [""],
        entity ++ "._internal", lines 1 (Member.stepsAfter (.constructor "" (.block []))
          ((extendedHead entity []).drop 3)), entity,
        .block ["return " ++ entity ++ "._instance;"], [multiSet entity], fun ps => ?_⟩
      change lines 1 (Member.allSteps (extendedHead entity ps ++ ps.flatMap holderAccessors ++
        [multiSet entity])) = _
      simp only [extendedHead, List.cons_append, List.nil_append, List.append_assoc,
        Member.allSteps, List.take, List.drop, lines_append, Member.levelAfter_steps,
        lines_stepsAfter_cons, constructorLines]
      simp [Member.needsSeparator, Member.kind, Member.isAccessor,
        Member.stepsAfter, lines]

/-- The lines of the classes of an entity, each class after an empty line. -/
def entityLines (v : Variant) (entity : String) (ps : List Property) : List String :=
  "" :: lines 0 (holder v entity ps).steps ++ ("" :: lines 0 (selector entity ps).steps ++
    if v.hasBatchSetter then "" :: lines 0 (batchSetter entity ps).steps else [])

theorem flatMap_lines_compileEntity (v : Variant) (e : Entity) :
    ((compileEntity v e).flatMap fun d => "" :: d.lines) =
      entityLines v e.name (properties v e) := by
  cases v <;> simp [compileEntity, entityClasses, entityLines, properties, Variant.hasBatchSetter,
    Declaration.lines, Declaration.steps]

theorem lines_holder (v : Variant) (entity : String) (ps : List Property) :
    lines 0 (holder v entity ps).steps = holderHeader v entity ::
      (lines 1 (Member.allSteps (holder v entity ps).members) ++ [margin 0 ++ "\x7d"]) := by
  have hmembers : (holder v entity ps).members ≠ [] := by
    cases v <;> exact List.cons_ne_nil _ _
  rw [ClassDecl.lines_steps hmembers]
  cases v <;> rfl

/-- The entity is known from its lines, whatever comes after them. -/
theorem entityLines_inj {v : Variant} {entity entity' : String} {ps ps' : List Property}
    {rest rest' : List String} (hps : ∀ p ∈ ps, p.Legible) (hps' : ∀ p ∈ ps', p.Legible)
    (h : entityLines v entity ps ++ rest = entityLines v entity' ps' ++ rest') :
    entity = entity' ∧ ps = ps' ∧ rest = rest' := by
  have hlines := h
  simp only [entityLines, lines_holder, List.cons_append, List.append_assoc, List.cons.injEq,
    true_and] at hlines
  obtain ⟨hheader, hmembers⟩ := hlines
  obtain rfl : entity = entity' := holderHeader_inj hheader
  -- The entity fixes what stands before the constructor, which gives the names and the literals;
  -- with these the accessors that follow it give the types.
  obtain ⟨before, name, between, factory, body, tail, hholder⟩ := exists_lines_holder v entity
  rw [hholder, hholder] at hmembers
  simp only [List.append_assoc, List.append_cancel_left_eq] at hmembers
  obtain ⟨hmap, hrest⟩ := constructorLines_inj hps hps' hmembers
  obtain rfl : ps = ps' := stepsAfter_factory_inj hps hps' hmap (List.append_cancel_left hrest)
  exact ⟨rfl, rfl, List.append_cancel_left h⟩

/-- What the code of an entity tells of it. -/
def resolved (v : Variant) (e : Entity) : String × List Property :=
  (e.name, properties v e)

theorem flatMap_entityLines_inj {v : Variant} {es es' : List Entity} (hes : ∀ e ∈ es, e.Legible)
    (hes' : ∀ e ∈ es', e.Legible)
    (h : (es.flatMap fun e => entityLines v e.name (properties v e)) =
      es'.flatMap fun e => entityLines v e.name (properties v e)) :
    es.map (resolved v) = es'.map (resolved v) := by
  induction es generalizing es' with
  | nil =>
      cases es' with
      | nil => rfl
      | cons e' es' => exact absurd h (by simp [entityLines])
  | cons e es ih =>
      cases es' with
      | nil => exact absurd h (by simp [entityLines])
      | cons e' es' =>
          rw [List.forall_mem_cons] at hes hes'
          rw [List.flatMap_cons, List.flatMap_cons] at h
          obtain ⟨hname, hproperties, hrest⟩ := entityLines_inj (legible_properties hes.1)
            (legible_properties hes'.1) h
          rw [List.map_cons, List.map_cons, resolved, resolved, hname, hproperties,
            ih hes.2 hes'.2 hrest]

theorem oneLine_token {t : AttributeType} (h : OneLine t.tag) (v : Variant) :
    OneLine (t.token v) := by
  cases t with
  | other expression => exact h
  | _ => cases v <;> decide

theorem oneLine_literal {a : Attribute} (h : ∀ value ∈ a.default, OneLine value) :
    OneLine a.literal := by
  unfold Attribute.literal
  cases hdefault : a.default with
  | none =>
      change OneLine nullLiteral
      decide
  | some value =>
      have hvalue : OneLine value := h value hdefault
      have hquoted : OneLine ("'" ++ value ++ "'") := by simpa [OneLine] using hvalue
      have hplain : OneLine (plainLiteral value) := by
        unfold plainLiteral
        split_ifs
        · decide
        · decide
        · exact hvalue
      change OneLine (if a.type.isText then _ else _)
      split_ifs
      · exact hquoted
      · exact hplain

def Property.Flat (p : Property) : Prop :=
  OneLine p.name ∧ OneLine p.type ∧ OneLine p.literal

theorem flat_properties {v : Variant} {e : Entity} (h : e.Legible) :
    ∀ p ∈ properties v e, p.Flat := by
  rw [properties, List.forall_mem_map]
  intro a ha
  obtain ⟨hname, htype, hdefault⟩ := h.2 a ha
  exact ⟨oneLine_of_isIdentifier hname, oneLine_token htype v, oneLine_literal hdefault⟩

theorem oneLine_of_mem_initializer {ps : List Property} (hps : ∀ p ∈ ps, p.Flat) :
    ∀ t ∈ initializer ps, OneLine t := by
  rw [initializer, List.forall_mem_map]
  intro p hp
  obtain ⟨hname, -, hliteral⟩ := hps p hp
  simp_all [OneLine]

theorem oneLine_of_mem_holderAccessors {p : Property} (hp : p.Flat) :
    ∀ m ∈ holderAccessors p, ∀ t ∈ m.texts, OneLine t := by
  obtain ⟨hname, htype, -⟩ := hp
  have hread : OneLine p.readExpression := by
    unfold Property.readExpression
    split_ifs <;> simp_all [OneLine]
  simp_all [holderAccessors, Member.texts, Body.texts, OneLine]

theorem oneLine_of_mem_holder {v : Variant} {entity : String} {ps : List Property}
    (hentity : OneLine entity) (hps : ∀ p ∈ ps, p.Flat) :
    ∀ t ∈ (holder v entity ps).texts, OneLine t := by
  have hinitializer := oneLine_of_mem_initializer hps
  have haccessors : ∀ m ∈ ps.flatMap holderAccessors, ∀ t ∈ m.texts, OneLine t := by
    rw [List.forall_mem_flatMap]
    exact fun p hp => oneLine_of_mem_holderAccessors (hps p hp)
  cases v with
  | basic =>
      have hhead : ∀ m ∈ basicHead entity ps, ∀ t ∈ m.texts, OneLine t := by
        simp only [basicHead, List.forall_mem_cons, Member.texts, Body.texts]
        simp_all [OneLine]
      change ∀ t ∈ [entity, "Trigger"] ++ _, OneLine t
      rw [List.forall_mem_append, List.forall_mem_flatMap]
      refine ⟨?_, List.forall_mem_append.mpr ⟨hhead, haccessors⟩⟩
      simp_all [OneLine]
  | extended =>
      have hhead : ∀ m ∈ extendedHead entity ps, ∀ t ∈ m.texts, OneLine t := by
        simp only [extendedHead, List.forall_mem_cons, Member.texts, Body.texts]
        simp_all [OneLine, selectorName]
      have hmultiSet : ∀ m ∈ [multiSet entity], ∀ t ∈ m.texts, OneLine t := by
        simp_all [multiSet, Member.texts, Body.texts, OneLine, batchSetterName]
      change ∀ t ∈ ["base", entity, "Trigger"] ++ _, OneLine t
      rw [List.forall_mem_append, List.forall_mem_flatMap]
      refine ⟨?_, List.forall_mem_append.mpr
        ⟨List.forall_mem_append.mpr ⟨hhead, haccessors⟩, hmultiSet⟩⟩
      simp_all [OneLine]

theorem oneLine_of_mem_selector {entity : String} {ps : List Property}
    (hentity : OneLine entity) (hps : ∀ p ∈ ps, p.Flat) :
    ∀ t ∈ (selector entity ps).texts, OneLine t := by
  change ∀ t ∈ [selectorName entity, "TriggerField"] ++ _, OneLine t
  rw [List.forall_mem_append, List.forall_mem_flatMap, selector, List.forall_mem_map]
  refine ⟨by simp_all [OneLine, selectorName], fun p hp => ?_⟩
  have hname : OneLine p.name := (hps p hp).1
  simp_all [Member.texts, Body.texts, OneLine, selectorName]

theorem oneLine_of_mem_batchSetter {entity : String} {ps : List Property}
    (hentity : OneLine entity) (hps : ∀ p ∈ ps, p.Flat) :
    ∀ t ∈ (batchSetter entity ps).texts, OneLine t := by
  change ∀ t ∈ [batchSetterName entity] ++ _, OneLine t
  rw [List.forall_mem_append, List.forall_mem_flatMap]
  refine ⟨by simp_all [OneLine, batchSetterName], ?_⟩
  rw [batchSetter, List.forall_mem_cons, List.forall_mem_map]
  refine ⟨by simp [Member.texts, OneLine], fun p hp => ?_⟩
  obtain ⟨hname, htype, -⟩ := hps p hp
  simp_all [Member.texts, Body.texts, OneLine]

theorem oneLine_of_mem_entityLines {v : Variant} {e : Entity} (h : e.Legible) :
    ∀ l ∈ entityLines v e.name (properties v e), OneLine l := by
  have hname : OneLine e.name := oneLine_of_isIdentifier h.1
  have hps := flat_properties (v := v) h
  have hempty : OneLine "" := by decide
  have hlines : ∀ c : ClassDecl, (∀ t ∈ c.texts, OneLine t) →
      ∀ l ∈ "" :: lines 0 c.steps, OneLine l := by
    intro c hc
    exact List.forall_mem_cons.mpr
      ⟨hempty, Declaration.oneLine_of_mem_lines (d := .classDecl c) hc⟩
  rw [entityLines, List.forall_mem_append, List.forall_mem_append]
  refine ⟨hlines _ (oneLine_of_mem_holder hname hps),
    hlines _ (oneLine_of_mem_selector hname hps), ?_⟩
  split
  · exact hlines _ (oneLine_of_mem_batchSetter hname hps)
  · exact List.forall_mem_nil _

theorem toList_generateUnit (options : Options) (unit : UnitName) (r : Registry) :
    (generateUnit options unit r).toList = (print (unitHeader options unit)).toList ++
      unlines (r.entities.flatMap fun e =>
        entityLines options.variant e.name (properties options.variant e)) := by
  have hheader : unitHeader options unit ≠ [] := by simp [unitHeader]
  rw [generateUnit, compileUnit, toList_print_append hheader, List.flatMap_assoc]
  simp only [flatMap_lines_compileEntity]

/-- Two registries with legible entities whose units are the same text have the same entities in the
same order, with the same resolved attributes in the same order. -/
theorem generateUnit_inj (options : Options) (unit : UnitName) (r r' : Registry)
    (hr : ∀ e ∈ r.entities, e.Legible) (hr' : ∀ e ∈ r'.entities, e.Legible) :
    generateUnit options unit r = generateUnit options unit r' ↔
      r.entities.map (resolved options.variant) = r'.entities.map (resolved options.variant) := by
  constructor
  · intro h
    have hlists := congrArg String.toList h
    rw [toList_generateUnit, toList_generateUnit] at hlists
    refine flatMap_entityLines_inj hr hr' (unlines_inj ?_ ?_ (List.append_cancel_left hlists))
    · rw [List.forall_mem_flatMap]
      exact fun e he => oneLine_of_mem_entityLines (hr e he)
    · rw [List.forall_mem_flatMap]
      exact fun e he => oneLine_of_mem_entityLines (hr' e he)
  · intro h
    have hresolved (es : List Entity) :
        (es.flatMap fun e => entityLines options.variant e.name (properties options.variant e)) =
          (es.map (resolved options.variant)).flatMap fun x =>
            entityLines options.variant x.1 x.2 := by
      rw [List.flatMap_map]
      rfl
    rw [← String.toList_inj, toList_generateUnit, toList_generateUnit, hresolved, hresolved, h]

def plain : Registry :=
  ⟨[⟨"Counter", [⟨"count", .integer, some "0"⟩]⟩, ⟨"Empty", []⟩]⟩

/-- The same with a type that imitates a getter. -/
def imitation : Registry :=
  ⟨[⟨"Counter", [⟨"count", .other "int get count => 0; int", some "0"⟩]⟩, ⟨"Empty", []⟩]⟩

theorem generateUnit_plain_ne_imitation :
    (∀ e ∈ plain.entities, e.Legible) ∧ (∀ e ∈ imitation.entities, e.Legible) ∧
      generateUnit {} ⟨"models"⟩ plain ≠ generateUnit {} ⟨"models"⟩ imitation := by
  have hplain : ∀ e ∈ plain.entities, e.Legible := by decide
  have himitation : ∀ e ∈ imitation.entities, e.Legible := by decide
  refine ⟨hplain, himitation, fun h => ?_⟩
  have hresolved := (generateUnit_inj {} ⟨"models"⟩ plain imitation hplain himitation).mp h
  exact absurd hresolved (by decide)

end Dart

end DartTriggers
