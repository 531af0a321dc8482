import DartTriggers.Json.Record
/-!
What all values that are read have in common. A property of the items of a list, or of what every
field makes of a draft, is one of whatever is read, however the text is written.
-/

namespace DartTriggers.Json

/-- All that is read has a property. -/
def Reader.Yields {α : Type} (r : Reader α) (P : α → Prop) : Prop :=
  ∀ s x rest, r.run s = .ok (x, rest) → P x

def Decoder.Yields {α : Type} (d : Decoder α) (P : α → Prop) : Prop :=
  ∀ levels, (d levels).Yields P

section

variable {α β : Type} {P : α → Prop}

theorem Reader.Yields.map {r : Reader α} {f : α → β} {Q : β → Prop}
    (h : r.Yields fun x => Q (f x)) : (r.map f).Yields Q := by
  intro s y rest hrun
  simp only [Reader.map] at hrun
  cases hr : r.run s with
  | error fault =>
      rw [hr] at hrun
      cases hrun
  | ok read =>
      rw [hr] at hrun
      cases hrun
      exact h s read.1 read.2 hr

theorem Reader.Yields.items {r : Reader α} (h : r.Yields P) {s rest : List Char} {xs : List α}
    (hrun : r.items s = .ok (xs, rest)) : ∀ x ∈ xs, P x := by
  -- One case for each way in which the items can go on after the first one.
  fun_induction Reader.items r s generalizing xs rest with
  | case1 | case2 | case4 => cases hrun
  | case3 s x left hx left' hclose =>
      cases hrun
      exact List.forall_mem_singleton.mpr (h s x left hx)
  | case5 s x left hx left' hentry xs left'' hxs ih =>
      cases hrun
      exact List.forall_mem_cons.mpr ⟨h s x left hx, ih hxs⟩

theorem Reader.Yields.list {r : Reader α} (h : r.Yields P) {s rest : List Char} {xs : List α}
    (hrun : r.list s = .ok (xs, rest)) : ∀ x ∈ xs, P x := by
  unfold Reader.list at hrun
  split at hrun
  · cases hrun
  · cases hrun
    exact List.forall_mem_nil P
  · exact h.items hrun

theorem yields_map {d : Decoder α} {f : α → β} {Q : β → Prop} (h : ∀ x, Q (f x)) :
    (d.map f).Yields Q :=
  fun _ => Reader.Yields.map fun _ x _ _ => h x

theorem yields_list {d : Decoder α} (h : d.Yields P) :
    (Decoder.list d).Yields fun xs => ∀ x ∈ xs, P x := by
  intro levels s xs rest hrun
  simp only [Decoder.list] at hrun
  split at hrun
  · cases hrun
  · split at hrun
    · split at hrun
      · cases hrun
      · exact (h _).list hrun
    · cases hrun

theorem of_decode_eq_ok {d : Decoder α} (h : d.Yields P) {source : String} {x : α}
    (hdecode : decode d source = .ok x) : P x := by
  unfold decode at hdecode
  split at hdecode
  · cases hdecode
  · rename_i hrun
    split at hdecode
    · cases hdecode
      exact h _ _ _ _ hrun
    · cases hdecode

end

section

variable {σ α : Type} {I : σ → Prop}

/-- Whatever is read for a field, the draft that it is put into stays as it should be. -/
def RecordField.Keeps (field : RecordField σ) (I : σ → Prop) : Prop :=
  ∀ levels, (field.reader levels).Yields fun update =>
    ∀ f, update = .ok f → ∀ draft, I draft → I (f draft)

theorem keeps_of {β : Type} {key : String} {hasDefault : Bool} {d : Decoder β}
    {get : σ → Option β} {set : β → σ → σ} {P : β → Prop} (hd : d.Yields P)
    (hset : ∀ x draft, P x → I draft → I (set x draft)) :
    (RecordField.of key hasDefault d get set).Keeps I := by
  intro levels
  refine Reader.Yields.map fun s x rest hrun f hf draft hdraft => ?_
  rw [← Except.ok.inj hf]
  exact hset x draft (hd levels s x rest hrun) hdraft

theorem keeps_of_fieldValue {field : RecordField σ} (h : field.Keeps I) {levels : Nat}
    {draft draft' : σ} {s rest : List Char} {giveUp : List Char → List Char}
    (hrun : Record.fieldValue field levels draft s giveUp = .ok (draft', rest))
    (hdraft : I draft) : I draft' := by
  unfold Record.fieldValue at hrun
  split at hrun
  · cases hrun
  · cases hrun
  · rename_i update left hread
    cases hrun
    exact h levels s _ _ hread update rfl draft hdraft

variable {fields : List (RecordField σ)} (hfields : ∀ field ∈ fields, field.Keeps I)

include hfields

theorem keeps_of_member {levels : Nat} {draft draft' : σ} {key : String} {s rest : List Char}
    (hrun : Record.member fields levels draft key s = .ok (draft', rest))
    (hdraft : I draft) : I draft' := by
  unfold Record.member at hrun
  split at hrun
  · -- The value of an unknown key is passed over.
    split at hrun
    · cases hrun
    · split at hrun
      · cases hrun
      · cases hrun
        exact hdraft
  · rename_i field hfield
    split at hrun
    · cases hrun
    · split at hrun
      · cases hrun
      · exact keeps_of_fieldValue (hfields field (List.mem_of_find?_eq_some hfield)) hrun hdraft

theorem keeps_of_members {levels : Nat} {draft draft' : σ} {s rest : List Char}
    (hrun : Record.members fields levels draft s = .ok (draft', rest))
    (hdraft : I draft) : I draft' := by
  fun_induction Record.members fields levels draft s with
  | case1 | case2 | case3 => cases hrun
  | case4 draft s key left hkey next left' hmember left'' hclose =>
      cases hrun
      exact keeps_of_member hfields hmember hdraft
  | case5 draft s key left hkey next left' hmember left'' hentry ih =>
      exact ih hrun (keeps_of_member hfields hmember hdraft)

theorem keeps_of_positions {wanted : String} {levels index : Nat} {draft draft' : σ}
    {s rest : List Char}
    (hrun : Record.positions wanted levels index fields draft s = .ok (draft', rest))
    (hdraft : I draft) : I draft' := by
  induction fields generalizing index draft s with
  | nil =>
      rw [Record.positions] at hrun
      split at hrun
      · cases hrun
      · cases hrun
        exact hdraft
  | cons field fields ih =>
      rw [List.forall_mem_cons] at hfields
      rw [Record.positions] at hrun
      split at hrun
      · cases hrun
      · split at hrun
        · cases hrun
          exact hdraft
        · cases hrun
      · split at hrun
        · cases hrun
        · rename_i next left hvalue
          exact ih hfields.2 hrun (keeps_of_fieldValue hfields.1 hvalue hdraft)

end

theorem of_conclude_eq_ok {σ α : Type} {R : Record σ α} {draft : σ} {s rest : List Char} {x : α}
    (h : R.conclude draft s = .ok (x, rest)) : R.finish draft = .ok x := by
  unfold Record.conclude at h
  split at h
  · cases h
  · rename_i hfinish
    cases h
    exact hfinish

/-- A record has a property if the empty draft is as it should be, every field keeps it so, and a
draft that is so is finished as a record with the property. -/
theorem yields_record {σ α : Type} {R : Record σ α} {I : σ → Prop} {P : α → Prop}
    (hempty : I R.empty) (hfields : ∀ field ∈ R.fields, field.Keeps I)
    (hfinish : ∀ draft x, I draft → R.finish draft = .ok x → P x) : R.decoder.Yields P := by
  intro levels s x rest hrun
  have hconclude : ∀ {draft left}, I draft → R.conclude draft left = .ok (x, rest) → P x :=
    fun hdraft h => hfinish _ x hdraft (of_conclude_eq_ok h)
  change R.read levels s = _ at hrun
  unfold Record.read at hrun
  split at hrun
  · cases hrun
  · split at hrun
    · split at hrun
      · cases hrun
      · unfold Record.readList at hrun
        split at hrun
        · cases hrun
        · rename_i draft left hpositions
          exact hconclude (keeps_of_positions hfields hpositions hempty) hrun
    · split at hrun
      · split at hrun
        · cases hrun
        · unfold Record.readObject at hrun
          split at hrun
          · cases hrun
          · exact hconclude hempty hrun
          · split at hrun
            · cases hrun
            · rename_i draft left hmembers
              exact hconclude (keeps_of_members hfields hmembers hempty) hrun
      · cases hrun

end DartTriggers.Json
