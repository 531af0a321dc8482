import DartTriggers.Dart.Compile
/-!
What the classes of an entity have for its attributes. Getters, setters and the assignments of the
constructor follow the attributes one by one; what is left of the classes without them depends on
the name of the entity and on the layout alone.
-/

namespace DartTriggers.Dart

/-- A getter or a setter, with the type of the value that it reads or takes. -/
structure Accessor where
  name : String
  type : String
  body : Body

namespace Member

def getter? : Member → Option Accessor
  | .getter type name body => some ⟨name, type, body⟩
  | _ => none

def setter? : Member → Option Accessor
  | .setter name type _ body => some ⟨name, type, body⟩
  | _ => none

/-- The body of a constructor that makes a new instance, so not of a factory. -/
def generative? : Member → Option Body
  | .constructor _ body => some body
  | _ => none

/-- A member without anything for attributes: accessors fall away, and constructors do nothing. -/
def bare? : Member → Option Member
  | .getter .. | .setter .. => none
  | .constructor name (.block _) => some (.constructor name (.block []))
  | m => some m

end Member

namespace ClassDecl

def getters (c : ClassDecl) : List Accessor :=
  c.members.filterMap Member.getter?

def setters (c : ClassDecl) : List Accessor :=
  c.members.filterMap Member.setter?

def constructors (c : ClassDecl) : List Body :=
  c.members.filterMap Member.generative?

def bare (c : ClassDecl) : ClassDecl :=
  { c with members := c.members.filterMap Member.bare? }

end ClassDecl

def holderHead (v : Variant) (entity : String) (ps : List Property) : List Member :=
  match v with
  | .basic => basicHead entity ps
  | .extended => extendedHead entity ps

def holderTail (v : Variant) (entity : String) : List Member :=
  match v with
  | .basic => []
  | .extended => [multiSet entity]

theorem members_holder (v : Variant) (entity : String) (ps : List Property) :
    (holder v entity ps).members =
      holderHead v entity ps ++ ps.flatMap holderAccessors ++ holderTail v entity := by
  cases v with
  | basic => exact (List.append_nil _).symm
  | extended => rfl

section

variable {α : Type} (view : Member → Option α) {member : Property → Member} {value : Property → α}

theorem filterMap_map_of_none (hview : ∀ p, view (member p) = none) (ps : List Property) :
    (ps.map member).filterMap view = [] := by
  rw [List.filterMap_map, List.filterMap_eq_nil_iff]
  intro p _
  exact hview p

theorem filterMap_map_of_some (hview : ∀ p, view (member p) = some (value p))
    (ps : List Property) : (ps.map member).filterMap view = ps.map value := by
  have hcomp : view ∘ member = fun p => some (value p) := funext hview
  rw [List.filterMap_map, hcomp, List.filterMap_eq_map']

variable {v : Variant} {entity : String} {ps : List Property}

theorem filterMap_holder_of_accessors (hhead : (holderHead v entity ps).filterMap view = [])
    (htail : (holderTail v entity).filterMap view = [])
    (hview : ∀ p, (holderAccessors p).filterMap view = [value p]) :
    (holder v entity ps).members.filterMap view = ps.map value := by
  rw [members_holder, List.filterMap_append, List.filterMap_append, hhead, htail, List.nil_append,
    List.append_nil, List.filterMap_flatMap, List.map_eq_flatMap]
  simp only [hview]

theorem filterMap_holder_of_others (hview : ∀ p, (holderAccessors p).filterMap view = []) :
    (holder v entity ps).members.filterMap view =
      (holderHead v entity ps).filterMap view ++ (holderTail v entity).filterMap view := by
  have haccessors : (ps.flatMap holderAccessors).filterMap view = [] := by
    rw [List.filterMap_flatMap, List.flatMap_eq_nil_iff]
    intro p _
    exact hview p
  rw [members_holder, List.filterMap_append, List.filterMap_append, haccessors, List.append_nil]

end

section

variable (v : Variant) (entity : String) (ps : List Property)

theorem getters_holder :
    (holder v entity ps).getters = ps.map fun p => ⟨p.name, p.type, .arrow p.readExpression⟩ :=
  filterMap_holder_of_accessors Member.getter? (by cases v <;> rfl) (by cases v <;> rfl)
    fun _ => rfl

theorem setters_holder :
    (holder v entity ps).setters =
      ps.map fun p => ⟨p.name, p.type, .arrow ("setValue('" ++ p.name ++ "', val)")⟩ :=
  filterMap_holder_of_accessors Member.setter? (by cases v <;> rfl) (by cases v <;> rfl)
    fun _ => rfl

theorem constructors_holder :
    (holder v entity ps).constructors = [.block (initializer ps)] := by
  rw [ClassDecl.constructors, filterMap_holder_of_others Member.generative? fun _ => rfl]
  cases v <;> rfl

theorem bare_holder : (holder v entity ps).bare = holder v entity [] := by
  rw [ClassDecl.bare, filterMap_holder_of_others Member.bare? fun _ => rfl]
  cases v <;> rfl

theorem getters_selector :
    (selector entity ps).getters = ps.map fun p => ⟨p.name, selectorName entity,
      .block ["addField('" ++ p.name ++ "');", "return this;"]⟩ :=
  filterMap_map_of_some Member.getter? (fun _ => rfl) ps

theorem setters_selector : (selector entity ps).setters = [] :=
  filterMap_map_of_none Member.setter? (fun _ => rfl) ps

theorem bare_selector : (selector entity ps).bare = selector entity [] := by
  have hmembers : (selector entity ps).members.filterMap Member.bare? = [] :=
    filterMap_map_of_none Member.bare? (fun _ => rfl) ps
  rw [ClassDecl.bare, hmembers]
  rfl

theorem getters_batchSetter : (batchSetter entity ps).getters = [] := by
  rw [ClassDecl.getters, batchSetter, List.filterMap_cons_none rfl]
  exact filterMap_map_of_none Member.getter? (fun _ => rfl) ps

theorem setters_batchSetter :
    (batchSetter entity ps).setters =
      ps.map fun p => ⟨p.name, p.type, .arrow ("_map[\"" ++ p.name ++ "\"] = val")⟩ := by
  rw [ClassDecl.setters, batchSetter, List.filterMap_cons_none rfl]
  exact filterMap_map_of_some Member.setter? (fun _ => rfl) ps

theorem bare_batchSetter : (batchSetter entity ps).bare = batchSetter entity [] := by
  have hmembers : (batchSetter entity ps).members.filterMap Member.bare? =
      (batchSetter entity []).members :=
    congrArg (List.cons _) (filterMap_map_of_none Member.bare? (fun _ => rfl) ps)
  rw [ClassDecl.bare, hmembers]
  rfl

end

def assignment (target value : String) : String :=
  target ++ " = " ++ value ++ ";"

theorem initializer_ofAttribute (v : Variant) (attributes : List Attribute) :
    initializer (attributes.map (Property.ofAttribute v)) =
      List.zipWith assignment (attributes.map (·.name)) (attributes.map (·.literal)) := by
  rw [initializer, List.map_map, List.zipWith_map, List.zipWith_self]
  rfl

/-- Whether the value of an expression is asserted not to be null. -/
def Body.asserts : Body → Bool
  | .arrow expression => expression.toList.getLast? == some '!'
  | .block _ => false

theorem asserts_readExpression (p : Property) :
    (Body.arrow p.readExpression).asserts = !p.nullable := by
  have hclose : "')".toList.getLast? = some ')' := by decide
  have hassert : "!".toList.getLast? = some '!' := by decide
  rw [Property.readExpression, Body.asserts]
  cases p.nullable with
  | true =>
      rw [if_pos rfl, String.append_empty, String.toList_append, List.getLast?_append, hclose]
      rfl
  | false =>
      rw [if_neg Bool.false_ne_true, String.toList_append, List.getLast?_append, hassert]
      rfl

/-- Accessors stand for some attributes one by one, each with the name and the Dart type of its
attribute. -/
structure StandFor (accessors : List Accessor) (v : Variant) (attributes : List Attribute) :
    Prop where
  names : accessors.map (·.name) = attributes.map (·.name)
  types : accessors.map (·.type) = attributes.map (·.type.token v)

theorem standFor_map {v : Variant} (attributes : List Attribute) (body : Property → Body) :
    StandFor ((attributes.map (Property.ofAttribute v)).map fun p => ⟨p.name, p.type, body p⟩) v
      attributes := by
  constructor
  · simp only [List.map_map]
    rfl
  · simp only [List.map_map]
    rfl

/-- The classes of an entity follow its attributes: the constructor assigns their defaults one by
one, the getters and setters are theirs one by one, and a getter asserts its value exactly if the
type does not allow null. Without all of these, the classes are those of an entity that has the name
and no attributes. -/
theorem compileEntity_follows (v : Variant) (e : Entity) :
    ∃ (holder selector : ClassDecl) (batchSetters : List ClassDecl),
      compileEntity v e = (holder :: selector :: batchSetters).map .classDecl ∧
      batchSetters.length = (if v = .extended then 1 else 0) ∧
      holder.constructors =
        [.block (List.zipWith assignment e.attributeNames (e.attributes.map (·.literal)))] ∧
      StandFor holder.getters v e.attributes ∧ StandFor holder.setters v e.attributes ∧
      selector.getters.map (·.name) = e.attributeNames ∧ selector.setters = [] ∧
      (∀ c ∈ batchSetters, StandFor c.setters v e.attributes ∧ c.getters = []) ∧
      (∀ g ∈ holder.getters, g.body.asserts = true ↔ g.type.toList.getLast? ≠ some '?') ∧
      (holder :: selector :: batchSetters).map (·.bare) = entityClasses v ⟨e.name, []⟩ := by
  let ps := e.attributes.map (Property.ofAttribute v)
  refine ⟨holder v e.name ps, selector e.name ps,
    if v.hasBatchSetter then [batchSetter e.name ps] else [], rfl, ?_, ?_, ?_, ?_, ?_, ?_, ?_, ?_,
    ?_⟩
  · cases v <;> rfl
  · rw [constructors_holder, initializer_ofAttribute]
    rfl
  · rw [getters_holder]
    exact standFor_map e.attributes _
  · rw [setters_holder]
    exact standFor_map e.attributes _
  · rw [getters_selector]
    simp only [ps, List.map_map]
    rfl
  · exact setters_selector e.name ps
  · intro c hc
    obtain rfl : c = batchSetter e.name ps := by
      split at hc
      · exact List.mem_singleton.mp hc
      · cases hc
    rw [setters_batchSetter]
    exact ⟨standFor_map e.attributes _, getters_batchSetter e.name ps⟩
  · rw [getters_holder]
    simp only [ps, List.map_map, List.forall_mem_map]
    intro a _
    change (Body.arrow (Property.ofAttribute v a).readExpression).asserts = true ↔ _
    rw [asserts_readExpression]
    simp [Property.ofAttribute, isNullable]
  · cases v with
    | basic => simp [bare_holder, bare_selector, Variant.hasBatchSetter, entityClasses]
    | extended =>
        simp [bare_holder, bare_selector, bare_batchSetter, Variant.hasBatchSetter, entityClasses]

end DartTriggers.Dart
