import DartTriggers.Proofs.Json.Reading
/-!
What a record makes of any value. The members of an object and the items of an array are gathered
one after the other, and what each of them does to the draft depends on its value alone. The
members may as well be gathered field by field, whatever their order.
-/

namespace DartTriggers.Json

variable {σ α β : Type}

/-- However a value that fits is written, the field changes the draft as the function says. -/
def RecordField.Reads (field : RecordField σ) (f : Json → Option (σ → σ)) : Prop :=
  ∀ ⦃levels : Nat⦄ ⦃v : Json⦄ ⦃b text rest : List Char⦄, Fits levels v → Blank b →
    Written (.value v) text → Delimited rest → ∀ draft giveUp,
      (Record.fieldValue field levels draft (b ++ text ++ rest) giveUp).toOption =
        (f v).map fun update => (update draft, rest)

theorem toOption_fieldValue (field : RecordField σ) (levels : Nat) (draft : σ) (s : List Char)
    (giveUp : List Char → List Char) :
    (Record.fieldValue field levels draft s giveUp).toOption =
      ((field.reader levels).run s).toOption.bind fun p =>
        p.1.toOption.map fun update => (update draft, p.2) := by
  rw [Record.fieldValue]
  split <;> simp [*]

theorem fieldReads_of_reader {field : RecordField σ}
    {f : Json → Option (Except Complaint (σ → σ))} (h : Decoder.Reads field.reader f) :
    field.Reads fun v => (f v).bind Except.toOption := by
  intro levels v b text rest hfits hb htext hrest draft giveUp
  rw [toOption_fieldValue, h hfits hb htext hrest]
  cases hv : f v <;> simp [hv]

theorem fieldReads_of {key : String} {hasDefault : Bool} {d : Decoder β} {get : σ → Option β}
    {set : β → σ → σ} {f : Json → Option β} (h : d.Reads f) :
    (RecordField.of key hasDefault d get set).Reads fun v => (f v).map set := by
  have hreader : Decoder.Reads (RecordField.of key hasDefault d get set).reader
      fun v => (f v).map fun x => .ok (set x) :=
    reads_map h fun x => Except.ok (set x)
  intro levels v b text rest hfits hb htext hrest draft giveUp
  rw [fieldReads_of_reader hreader hfits hb htext hrest]
  cases hv : f v <;> simp [hv]

/-- A field together with where its value stands in a draft and what values are read as. -/
structure KnownField (σ : Type) where
  field : RecordField σ
  Value : Type
  get : σ → Option Value
  set : Value → σ → σ
  read? : Json → Option Value
  isSet_eq : ∀ draft, field.isSet draft = (get draft).isSome
  get_set : ∀ x draft, get (set x draft) = some x
  reads : field.Reads fun v => (read? v).map set

namespace KnownField

/-- A field that is read by a decoder of its own. -/
def of (key : String) (hasDefault : Bool) {d : Decoder β} {f : Json → Option β} (h : d.Reads f)
    (get : σ → Option β) (set : β → σ → σ) (get_set : ∀ x draft, get (set x draft) = some x) :
    KnownField σ where
  field := .of key hasDefault d get set
  Value := β
  get := get
  set := set
  read? := f
  isSet_eq _ := rfl
  get_set := get_set
  reads := fieldReads_of h

/-- The draft after a value of the field, which may have only one. -/
def step? (k : KnownField σ) (draft : σ) (v : Json) : Option σ :=
  match k.get draft with
  | some _ => none
  | none => (k.read? v).map fun x => k.set x draft

/-- The draft after a member of an object. -/
def member? (known : List (KnownField σ)) (draft : σ) (m : String × Json) : Option σ :=
  match known.find? (fun k => k.field.key == m.1) with
  | none => some draft
  | some k => k.step? draft m.2

/-- The draft after the items of an array, which stand for the fields in their order. -/
def items? : List (KnownField σ) → σ → List Json → Option σ
  | [], draft, [] => some draft
  | [], _, _ :: _ => none
  | k :: _, draft, [] => if k.field.hasDefault then some draft else none
  | k :: known, draft, v :: vs => (k.read? v).bind fun x => items? known (k.set x draft) vs

end KnownField

/-- What a record makes of a value. -/
def Record.value? (R : Record σ α) (known : List (KnownField σ)) : Json → Option α
  | .object ms =>
      (ms.foldlM (KnownField.member? known) R.empty).bind fun draft => (R.finish draft).toOption
  | .array vs =>
      (KnownField.items? known R.empty vs).bind fun draft => (R.finish draft).toOption
  | _ => none

/-- The values of the members with a key, in their order. -/
def valuesOf (key : String) (ms : List (String × Json)) : List Json :=
  (ms.filter fun m => m.1 == key).map (·.2)

theorem valuesOf_cons_self (key : String) (v : Json) (ms : List (String × Json)) :
    valuesOf key ((key, v) :: ms) = v :: valuesOf key ms := by
  simp [valuesOf]

theorem valuesOf_cons_of_ne {key : String} {m : String × Json} (hm : m.1 ≠ key)
    (ms : List (String × Json)) : valuesOf key (m :: ms) = valuesOf key ms := by
  simp [valuesOf, hm]

/-- What a field is read as that may be given once or not at all. -/
def atMostOne? (f : Json → Option β) : List Json → Option (Option β)
  | [] => some none
  | [v] => (f v).map some
  | _ :: _ :: _ => none

theorem length_valuesOf (key : String) (ms : List (String × Json)) :
    (valuesOf key ms).length = (ms.map (·.1)).count key := by
  rw [valuesOf, List.length_map, ← List.countP_eq_length_filter, List.count, List.countP_map]
  rfl

theorem atMostOne?_of_two_le {vs : List Json} (h : 2 ≤ vs.length) (f : Json → Option β) :
    atMostOne? f vs = none := by
  match vs with
  | [] | [_] => simp at h
  | _ :: _ :: _ => rfl

/-- A key that is not repeated, with a value that is read as `x`. -/
theorem atMostOne?_valuesOf {f : Json → Option β} {x : β} {key : String}
    {ms : List (String × Json)} (hvalue : ∀ v, (key, v) ∈ ms → f v = some x)
    (hcount : (ms.map (·.1)).count key ≤ 1) :
    atMostOne? f (valuesOf key ms) = some (if key ∈ ms.map (·.1) then some x else none) := by
  have hlength := length_valuesOf key ms
  have hmem : ∀ v ∈ valuesOf key ms, f v = some x := by
    intro v hv
    obtain ⟨m, hm, rfl⟩ := List.mem_map.mp hv
    obtain ⟨hm, hkey⟩ := List.mem_filter.mp hm
    exact hvalue m.2 (eq_of_beq hkey ▸ hm)
  match hvalues : valuesOf key ms with
  | [] =>
      rw [hvalues, List.length_nil] at hlength
      rw [if_neg (List.count_eq_zero.mp hlength.symm)]
      rfl
  | [v] =>
      rw [hvalues, List.length_singleton] at hlength
      rw [if_pos (List.count_pos_iff.mp (by omega)), atMostOne?, hmem v (by simp [hvalues])]
      rfl
  | v :: w :: vs =>
      rw [hvalues, List.length_cons, List.length_cons] at hlength
      omega

namespace KnownField

/-- Fields with different keys whose values stand in different places. -/
structure Apart (k k' : KnownField σ) : Prop where
  key_ne : k.field.key ≠ k'.field.key
  get_set : ∀ x draft, k.get (k'.set x draft) = k.get draft
  get_set' : ∀ x draft, k'.get (k.set x draft) = k'.get draft
  set_comm : ∀ x x' draft, k'.set x' (k.set x draft) = k.set x (k'.set x' draft)

variable {k : KnownField σ} {known : List (KnownField σ)}

theorem member?_cons (draft : σ) (m : String × Json) :
    member? (k :: known) draft m =
      if k.field.key = m.1 then k.step? draft m.2 else member? known draft m := by
  by_cases hkey : k.field.key = m.1 <;> simp [member?, hkey]

theorem member?_of_key_ne {m : String × Json} (h : ∀ k' ∈ known, k'.field.key ≠ m.1) (draft : σ) :
    member? known draft m = some draft := by
  have hfind : known.find? (fun k' => k'.field.key == m.1) = none := by
    simpa using h
  rw [member?, hfind]

theorem step?_comm {k' : KnownField σ} (h : k.Apart k') (draft : σ) (v w : Json) :
    (k.step? draft v).bind (k'.step? · w) = (k'.step? draft w).bind (k.step? · v) := by
  simp only [step?]
  cases hget : k.get draft with
  | some x => cases k'.get draft <;> cases k'.read? w <;> simp [h.get_set, hget]
  | none =>
      cases hget' : k'.get draft with
      | some x => cases k.read? v <;> simp [h.get_set', hget']
      | none =>
          cases k.read? v <;> cases k'.read? w <;>
            simp [h.get_set, h.get_set', h.set_comm, hget, hget']

theorem member?_step? (h : ∀ k' ∈ known, k.Apart k') (draft : σ) (v : Json) (m : String × Json) :
    (k.step? draft v).bind (member? known · m) = (member? known draft m).bind (k.step? · v) := by
  induction known with
  | nil => simp [member?]
  | cons k' known ih =>
      rw [List.forall_mem_cons] at h
      simp only [member?_cons]
      split
      · exact step?_comm h.1 draft v m.2
      · exact ih h.2

theorem member?_foldlM_step? (h : ∀ k' ∈ known, k.Apart k') (m : String × Json) (vs : List Json) :
    ∀ draft, (vs.foldlM k.step? draft).bind (member? known · m) =
      (member? known draft m).bind fun draft => vs.foldlM k.step? draft := by
  induction vs with
  | nil => intro draft; simp
  | cons v vs ih =>
      intro draft
      have hstep := member?_step? h draft v m
      calc ((v :: vs).foldlM k.step? draft).bind (member? known · m)
          = (k.step? draft v).bind fun draft =>
              (vs.foldlM k.step? draft).bind (member? known · m) := by
            simp [List.foldlM_cons, Option.bind_assoc]
        _ = ((k.step? draft v).bind (member? known · m)).bind (vs.foldlM k.step? ·) := by
            simp only [ih, Option.bind_assoc]
        _ = (member? known draft m).bind fun draft => (v :: vs).foldlM k.step? draft := by
            rw [hstep]
            simp [List.foldlM_cons, Option.bind_assoc]

/-- The members of the first field may be gathered before all others. -/
theorem foldlM_member?_cons (h : ∀ k' ∈ known, k.Apart k') (ms : List (String × Json)) :
    ∀ draft, ms.foldlM (member? (k :: known)) draft =
      ((valuesOf k.field.key ms).foldlM k.step? draft).bind
        fun draft => ms.foldlM (member? known) draft := by
  induction ms with
  | nil => intro draft; rfl
  | cons m ms ih =>
      intro draft
      obtain ⟨key, v⟩ := m
      by_cases hkey : k.field.key = key
      · obtain rfl := hkey
        have hothers : ∀ draft, member? known draft (k.field.key, v) = some draft :=
          member?_of_key_ne fun k' hk' => (h k' hk').key_ne.symm
        rw [valuesOf_cons_self]
        simp only [List.foldlM_cons, member?_cons, if_true, Option.bind_eq_bind, Option.bind_assoc,
          ih, hothers, Option.bind_some]
      · have hcommute := member?_foldlM_step? h (key, v) (valuesOf k.field.key ms) draft
        rw [valuesOf_cons_of_ne (Ne.symm hkey)]
        simp only [List.foldlM_cons, member?_cons, if_neg hkey, Option.bind_eq_bind, ih]
        rw [← Option.bind_assoc, ← hcommute, Option.bind_assoc]

theorem foldlM_member? (h : known.Pairwise Apart) (ms : List (String × Json)) :
    ∀ draft, ms.foldlM (member? known) draft =
      known.foldlM (fun draft k => (valuesOf k.field.key ms).foldlM k.step? draft) draft := by
  induction known with
  | nil =>
      intro draft
      induction ms with
      | nil => rfl
      | cons m ms ih => exact ih
  | cons k known ih =>
      intro draft
      rw [List.pairwise_cons] at h
      rw [foldlM_member?_cons h.1, List.foldlM_cons]
      simp only [ih h.2]
      rfl

theorem foldlM_step? (put : Option k.Value → σ) (hunset : k.get (put none) = none)
    (hset : ∀ x, k.set x (put none) = put (some x)) (vs : List Json) :
    vs.foldlM k.step? (put none) = (atMostOne? k.read? vs).map put := by
  match vs with
  | [] => rfl
  | [v] =>
      simp only [List.foldlM_cons, List.foldlM_nil, step?, hunset, atMostOne?]
      cases k.read? v <;> simp [hset]
  | v :: w :: vs =>
      simp only [List.foldlM_cons, step?, hunset, atMostOne?]
      cases k.read? v with
      | none => rfl
      | some x => simp [k.get_set]

end KnownField

/-- A member that no field has the key of is passed over. -/
theorem Record.value?_cons_of_unknown {R : Record σ α} {known : List (KnownField σ)}
    {m : String × Json} (h : ∀ k ∈ known, k.field.key ≠ m.1) (ms : List (String × Json)) :
    R.value? known (.object (m :: ms)) = R.value? known (.object ms) := by
  rw [Record.value?, List.foldlM_cons, KnownField.member?_of_key_ne h]
  rfl

end DartTriggers.Json
