import Mathlib.Data.List.Forall2
import DartTriggers.Proofs.Json.Fields
import DartTriggers.Proofs.Json.Skipping
/-!
Records read from objects. Of a member whose key no field has, only the form counts; whatever stands
there, the record is what its own members make of it.
-/

namespace DartTriggers.Json

variable {σ α : Type}

/-- What follows a member of an object, up to the closing brace: members with these keys and with
these texts in the place of their values. -/
inductive Entries : List (String × List Char) → List Char → Prop
  | objectEnd {b : List Char} (hb : Blank b) : Entries [] (b ++ ['\x7d'])
  | member {key : String} {es : List (String × List Char)}
      {b b₁ name b₂ b₃ text tail : List Char} (hb : Blank b) (hb₁ : Blank b₁)
      (hkey : Spelled key.toList name) (hb₂ : Blank b₂) (hb₃ : Blank b₃) (hes : Entries es tail) :
      Entries ((key, text) :: es)
        (b ++ ',' :: b₁ ++ '"' :: name ++ '"' :: b₂ ++ ':' :: b₃ ++ text ++ tail)

/-- The texts of an object with these keys and with these texts in the place of their values. -/
inductive ObjectText : List (String × List Char) → List Char → Prop
  | empty {b : List Char} (hb : Blank b) : ObjectText [] ('\x7b' :: b ++ ['\x7d'])
  | object {key : String} {es : List (String × List Char)} {b name b₁ b₂ text tail : List Char}
      (hb : Blank b) (hkey : Spelled key.toList name) (hb₁ : Blank b₁) (hb₂ : Blank b₂)
      (hes : Entries es tail) :
      ObjectText ((key, text) :: es)
        ('\x7b' :: b ++ '"' :: name ++ '"' :: b₁ ++ ':' :: b₂ ++ text ++ tail)

/-- Members one after the other with nothing between their tokens. -/
def entriesChars : List (String × List Char) → List Char
  | [] => ['\x7d']
  | (key, text) :: es => ',' :: '"' :: key.toList.flatMap stringChar ++ '"' :: ':' :: text ++
      entriesChars es

def objectChars : List (String × List Char) → List Char
  | [] => ['\x7b', '\x7d']
  | (key, text) :: es => '\x7b' :: '"' :: key.toList.flatMap stringChar ++ '"' :: ':' :: text ++
      entriesChars es

theorem entries_entriesChars (es : List (String × List Char)) : Entries es (entriesChars es) := by
  induction es with
  | nil => exact .objectEnd blank_nil
  | cons e es ih =>
      have h : Entries (e :: es) _ :=
        .member blank_nil blank_nil (spelled_flatMap e.1.toList) blank_nil blank_nil ih
      simpa [entriesChars] using h

theorem objectText_objectChars (es : List (String × List Char)) :
    ObjectText es (objectChars es) := by
  cases es with
  | nil => exact .empty blank_nil
  | cons e es =>
      have h : ObjectText (e :: es) _ :=
        .object blank_nil (spelled_flatMap e.1.toList) blank_nil blank_nil
          (entries_entriesChars es)
      simpa [objectChars] using h

theorem delimited_of_entries {es : List (String × List Char)} {tail : List Char}
    (h : Entries es tail) (rest : List Char) : Delimited (tail ++ rest) := by
  cases h with
  | objectEnd hb | member hb =>
      simp only [List.append_assoc]
      exact delimited_blank_append hb (delimited_cons _ (by simp))

/-- A text that may stand for a member: its value as it is written, or anything that has the form of
a value if no field has the key. -/
structure KnownField.StandsFor (known : List (KnownField σ)) (levels : Nat)
    (m : String × Json) (e : String × List Char) : Prop where
  key : m.1 = e.1
  value : (Fits levels m.2 ∧ Written (.value m.2) e.2) ∨
    ((∀ k ∈ known, k.field.key ≠ e.1) ∧ Formed .value e.2)

open KnownField (StandsFor)

variable {known : List (KnownField σ)} {levels : Nat}

theorem KnownField.StandsFor.formed {m : String × Json} {e : String × List Char}
    (h : StandsFor known levels m e) : Formed .value e.2 := by
  rcases h.value with ⟨hfits, htext⟩ | ⟨-, hformed⟩
  · exact formed_of_written htext hfits
  · exact hformed

theorem exists_entries {ms : List (String × Json)} :
    ∀ {tail : List Char}, (∀ m ∈ ms, Fits levels m.2) → Written (.members ms) tail →
      ∃ es, Entries es tail ∧ List.Forall₂ (StandsFor known levels) ms es := by
  induction ms with
  | nil =>
      intro tail _ h
      cases h with
      | objectEnd hb => exact ⟨[], .objectEnd hb, .nil⟩
  | cons m ms ih =>
      intro tail hfits h
      rw [List.forall_mem_cons] at hfits
      cases h with
      | @member key _ _ _ _ _ _ _ text _ hb hb₁ hkey hb₂ hb₃ htext htail =>
          obtain ⟨es, hes, hall⟩ := ih hfits.2 htail
          exact ⟨(key, text) :: es, .member hb hb₁ hkey hb₂ hb₃ hes,
            .cons ⟨rfl, .inl ⟨hfits.1, htext⟩⟩ hall⟩

theorem exists_objectText {ms : List (String × Json)} (hfits : ∀ m ∈ ms, Fits levels m.2)
    {text : List Char} (h : Written (.value (.object ms)) text) :
    ∃ es, ObjectText es text ∧ List.Forall₂ (StandsFor known levels) ms es := by
  cases h with
  | emptyObject hb => exact ⟨[], .empty hb, .nil⟩
  | @object key _ _ _ _ _ _ text _ hb hkey hb₁ hb₂ htext htail =>
      rw [List.forall_mem_cons] at hfits
      obtain ⟨es, hes, hall⟩ := exists_entries hfits.2 htail
      exact ⟨(key, text) :: es, .object hb hkey hb₁ hb₂ hes,
        .cons ⟨rfl, .inl ⟨hfits.1, htext⟩⟩ hall⟩

theorem keys_eq_of_standsFor {ms : List (String × Json)} {es : List (String × List Char)}
    (h : List.Forall₂ (StandsFor known levels) ms es) : ms.map (·.1) = es.map (·.1) := by
  have hkeys : List.Forall₂ (· = ·) (ms.map (·.1)) (es.map (·.1)) := by
    rw [List.forall₂_map_left_iff, List.forall₂_map_right_iff]
    exact h.imp fun m e hm => hm.key
  rwa [List.forall₂_eq_eq_eq] at hkeys

theorem exists_standsFor {P : String × Json → Prop} {es : List (String × List Char)}
    (h : ∀ e ∈ es, ∃ m, StandsFor known levels m e ∧ P m) :
    ∃ ms, List.Forall₂ (StandsFor known levels) ms es ∧ ∀ m ∈ ms, P m := by
  induction es with
  | nil => exact ⟨[], .nil, List.forall_mem_nil P⟩
  | cons e es ih =>
      rw [List.forall_mem_cons] at h
      obtain ⟨m, hm, hP⟩ := h.1
      obtain ⟨ms, hms, hall⟩ := ih h.2
      exact ⟨m :: ms, .cons hm hms, List.forall_mem_cons.mpr ⟨hP, hall⟩⟩

theorem toOption_member {m : String × Json} {e : String × List Char}
    (h : StandsFor known levels m e) {b b' rest : List Char} (hb : Blank b) (hb' : Blank b')
    (hrest : Delimited rest) (draft : σ) :
    (Record.member (known.map (·.field)) levels draft e.1
        (b ++ ':' :: (b' ++ e.2 ++ rest))).toOption =
      (KnownField.member? known draft m).map (·, rest) := by
  have hfind : (known.map (·.field)).find? (fun field => field.key == e.1) =
      (known.find? fun k => k.field.key == e.1).map (·.field) := List.find?_map
  rw [Record.member, KnownField.member?, hfind, h.key]
  cases hknown : known.find? fun k => k.field.key == e.1 with
  | none =>
      simp only [Option.map_none, colon_blank hb, skipValue_formed hb' h.formed hrest]
      rfl
  | some k =>
      simp only [Option.map_some, colon_blank hb, k.isSet_eq, KnownField.step?]
      cases k.get draft with
      | some x => rfl
      | none =>
          rcases h.value with ⟨hfits, htext⟩ | ⟨hother, -⟩
          · rw [Option.map_map]
            exact (k.reads hfits hb' htext hrest draft giveUpObject).trans (Option.map_map ..)
          · have hkey : k.field.key = e.1 := by simpa using List.find?_some hknown
            exact absurd hkey (hother k (List.mem_of_find?_eq_some hknown))

theorem toOption_members (fields : List (RecordField σ)) (levels : Nat) (draft : σ)
    (s : List Char) :
    (Record.members fields levels draft s).toOption = (stringBody s).toOption.bind fun p =>
      (Record.member fields levels draft (.ofList p.1) p.2).toOption.bind fun q =>
        (nextKey q.2).toOption.bind fun
          | .close rest => some (q.1, rest)
          | .entry rest => (Record.members fields levels q.1 rest).toOption := by
  rw [Record.members]
  split
  · simp [*]
  · split
    · simp [*]
    · split <;> simp [*]

/-- The induction is on the members that follow the first one. -/
theorem toOption_members_entries {es : List (String × List Char)} :
    ∀ {ms : List (String × Json)} {m : String × Json} (draft : σ) {key : String}
      {name b b' text tail : List Char},
      List.Forall₂ (StandsFor known levels) (m :: ms) ((key, text) :: es) →
        Spelled key.toList name → Blank b → Blank b' → Entries es tail → ∀ rest,
          (Record.members (known.map (·.field)) levels draft
              (name ++ '"' :: (b ++ ':' :: (b' ++ text ++ (tail ++ rest))))).toOption =
            ((m :: ms).foldlM (KnownField.member? known) draft).map (·, rest) := by
  induction es with
  | nil =>
      intro ms m draft key name b b' text tail h hkey hb hb' hes rest
      obtain ⟨hm, hms⟩ := List.forall₂_cons.mp h
      obtain rfl := List.forall₂_nil_right_iff.mp hms
      have hmember := toOption_member hm hb hb' (delimited_of_entries hes rest) draft
      have hnext : nextKey (tail ++ rest) = .ok (.close rest) := by
        cases hes with
        | objectEnd hend =>
            rw [List.append_assoc]
            exact nextKey_objectEnd hend rest
      rw [toOption_members, stringBody_spelled hkey, toOption_ok, Option.bind_some,
        String.ofList_toList, hmember, List.foldlM_cons]
      cases KnownField.member? known draft m <;> simp [hnext]
  | cons e es ih =>
      intro ms m draft key name b b' text tail h hkey hb hb' hes rest
      obtain ⟨hm, hms⟩ := List.forall₂_cons.mp h
      obtain ⟨m', ms, -, -, rfl⟩ := List.forall₂_cons_right_iff.mp hms
      have hmember := toOption_member hm hb hb' (delimited_of_entries hes rest) draft
      cases hes with
      | @member key' _ _ b₁ name' b₂ b₃ text' tail' hb₀ hb₁ hkey' hb₂ hb₃ htail' =>
          have hnext := nextKey_member hb₀ hb₁
            (name' ++ '"' :: (b₂ ++ ':' :: (b₃ ++ text' ++ (tail' ++ rest))))
          rw [toOption_members, stringBody_spelled hkey, toOption_ok, Option.bind_some,
            String.ofList_toList, hmember, List.foldlM_cons]
          cases KnownField.member? known draft m with
          | none => rfl
          | some draft' =>
              have hrest := ih draft' hms hkey' hb₂ hb₃ htail' rest
              simp only [List.append_assoc, List.cons_append] at hnext hrest ⊢
              simp only [Option.map_some, Option.bind_some, hnext, toOption_ok, hrest]
              rfl

theorem toOption_conclude (R : Record σ α) (read : Except Fault (σ × List Char))
    (draft? : Option σ) (rest : List Char) :
    read.toOption = draft?.map (·, rest) →
      (match read with
        | .error fault => .error fault
        | .ok (draft, rest) => R.conclude draft rest : Except Fault (α × List Char)).toOption =
        (draft?.bind fun draft => (R.finish draft).toOption).map (·, rest) := by
  intro hread
  cases draft? with
  | none =>
      obtain ⟨fault, rfl⟩ := toOption_eq_none.mp hread
      rfl
  | some draft =>
      obtain rfl := toOption_eq_some.mp hread
      simp only [Record.conclude]
      cases hfinish : R.finish draft <;> simp [hfinish]

theorem toOption_readObject {R : Record σ α} (hfields : R.fields = known.map (·.field))
    {ms : List (String × Json)} {es : List (String × List Char)}
    (h : List.Forall₂ (StandsFor known levels) ms es) {text : List Char}
    (htext : ObjectText es ('\x7b' :: text)) (rest : List Char) :
    (R.readObject levels (text ++ rest)).toOption =
      (R.value? known (.object ms)).map (·, rest) := by
  cases htext with
  | empty hb =>
      obtain rfl := List.forall₂_nil_right_iff.mp h
      rw [Record.readObject, List.append_eq, List.append_assoc, List.singleton_append,
        firstKey_objectEnd hb rest]
      exact toOption_conclude R (.ok (R.empty, rest)) (some R.empty) rest rfl
  | @object key es b name b₁ b₂ text tail hb hkey hb₁ hb₂ hes =>
      obtain ⟨m, ms, -, -, rfl⟩ := List.forall₂_cons_right_iff.mp h
      have hmembers := toOption_members_entries R.empty h hkey hb₁ hb₂ hes rest
      have hfirst := firstKey_member hb
        (name ++ '"' :: (b₁ ++ ':' :: (b₂ ++ text ++ (tail ++ rest))))
      rw [← hfields] at hmembers
      simp only [List.append_eq, List.append_assoc, List.cons_append] at hfirst hmembers ⊢
      rw [Record.readObject, hfirst, Record.value?]
      exact toOption_conclude R _ _ rest hmembers

theorem objectText_head {es : List (String × List Char)} {text : List Char}
    (h : ObjectText es text) : ∃ rest, text = '\x7b' :: rest := by
  cases h <;> exact ⟨_, rfl⟩

theorem toOption_decoder_object {R : Record σ α} (hfields : R.fields = known.map (·.field))
    {ms : List (String × Json)} {es : List (String × List Char)}
    (h : List.Forall₂ (StandsFor known levels) ms es) {b text : List Char} (hb : Blank b)
    (htext : ObjectText es text) (rest : List Char) :
    ((R.decoder (levels + 1)).run (b ++ text ++ rest)).toOption =
      (R.value? known (.object ms)).map (·, rest) := by
  obtain ⟨text, rfl⟩ := objectText_head htext
  have hopen : isSpace '\x7b' = false := by decide
  rw [List.append_assoc, List.cons_append, ← toOption_readObject hfields h htext rest]
  simp [Record.decoder, Record.read, skipSpace_blank hb hopen]

/-- A document with nothing but blanks around an object is read as the record makes of the members
that the texts in it stand for. -/
theorem toOption_decode_object {R : Record σ α} (hfields : R.fields = known.map (·.field))
    {ms : List (String × Json)} {es : List (String × List Char)}
    (h : List.Forall₂ (StandsFor known 126) ms es) {b text b' : List Char} (hb : Blank b)
    (htext : ObjectText es text) (hb' : Blank b') :
    (decode R.decoder (String.ofList (b ++ text ++ b'))).toOption =
      R.value? known (.object ms) :=
  toOption_decode_of_run hb' (toOption_decoder_object hfields h hb htext b')

end DartTriggers.Json
