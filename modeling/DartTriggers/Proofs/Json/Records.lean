import DartTriggers.Proofs.Json.Objects
/-!
Records read in either form: from the text of a value comes what the record makes of the value.
-/

namespace DartTriggers.Json

variable {σ α : Type}

section

variable {known : List (KnownField σ)} {levels : Nat}

theorem toOption_closeList {c : Char} {s rest : List Char} (hs : skipSpace s = c :: rest)
    (hc : c ≠ ']') : (closeList s).toOption = none := by
  rw [closeList, hs]
  simp only [if_neg hc]
  split
  · split
    · rfl
    · split <;> rfl
  · rfl

theorem closeList_listEnd {b : List Char} (hb : Blank b) (rest : List Char) :
    closeList (b ++ ']' :: rest) = .ok rest := by
  rw [closeList, skipSpace_blank hb (by decide)]
  rfl

theorem toOption_positions_nil (wanted : String) (index : Nat) (draft : σ) (s : List Char) :
    (Record.positions wanted levels index [] draft s).toOption =
      (closeList s).toOption.map (draft, ·) := by
  rw [Record.positions]
  cases closeList s <;> rfl

theorem toOption_positions_cons (wanted : String) (index : Nat) (field : RecordField σ)
    (fields : List (RecordField σ)) (draft : σ) (s : List Char) :
    (Record.positions wanted levels index (field :: fields) draft s).toOption =
      (if index = 0 then firstItem s else nextItem s).toOption.bind fun
        | .close rest => if field.hasDefault then some (draft, rest) else none
        | .entry rest => (Record.fieldValue field levels draft rest giveUpList).toOption.bind
            fun p => (Record.positions wanted levels (index + 1) fields p.1 p.2).toOption := by
  rw [Record.positions]
  split
  · simp [*]
  · split <;> simp [*]
  · split <;> simp [*]

theorem toOption_positions_close {k : KnownField σ} {index : Nat} {s rest : List Char}
    (hnext : (if index = 0 then firstItem s else nextItem s) = .ok (.close rest))
    (wanted : String) (draft : σ) :
    (Record.positions wanted levels index ((k :: known).map (·.field)) draft s).toOption =
      (KnownField.items? (k :: known) draft []).map (·, rest) := by
  rw [List.map_cons, toOption_positions_cons, hnext, KnownField.items?]
  cases k.field.hasDefault <;> simp

theorem toOption_positions_entry {k : KnownField σ} {index : Nat} {v : Json} {vs : List Json}
    {s text tail rest : List Char} {wanted : String}
    (hnext : (if index = 0 then firstItem s else nextItem s) =
      .ok (.entry (text ++ (tail ++ rest))))
    (hfits : Fits levels v) (htext : Written (.value v) text) (htail : Written (.items vs) tail)
    (hrest : ∀ draft, (Record.positions wanted levels (index + 1) (known.map (·.field)) draft
      (tail ++ rest)).toOption = (KnownField.items? known draft vs).map (·, rest)) (draft : σ) :
    (Record.positions wanted levels index ((k :: known).map (·.field)) draft s).toOption =
      (KnownField.items? (k :: known) draft (v :: vs)).map (·, rest) := by
  have hvalue : (Record.fieldValue k.field levels draft (text ++ (tail ++ rest))
      giveUpList).toOption = (k.read? v).map fun x => (k.set x draft, tail ++ rest) :=
    (k.reads hfits blank_nil htext (delimited_of_written htail (by simp) rest) draft
      giveUpList).trans (Option.map_map ..)
  rw [List.map_cons, toOption_positions_cons, hnext, KnownField.items?]
  simp only [toOption_ok, Option.bind_some, hvalue]
  cases k.read? v with
  | none => rfl
  | some x => exact hrest (k.set x draft)

/-- The induction is on the fields that are left, each of which stands after a comma. -/
theorem toOption_positions_written (wanted : String) :
    ∀ {vs : List Json} {index : Nat} {tail : List Char}, (∀ v ∈ vs, Fits levels v) →
      Written (.items vs) tail → ∀ (rest : List Char) (draft : σ),
        (Record.positions wanted levels (index + 1) (known.map (·.field)) draft
            (tail ++ rest)).toOption =
          (KnownField.items? known draft vs).map (·, rest) := by
  induction known with
  | nil =>
      intro vs index tail h htail rest draft
      rw [List.map_nil, toOption_positions_nil]
      cases htail with
      | listEnd hb =>
          rw [List.append_assoc, List.singleton_append, closeList_listEnd hb rest]
          rfl
      | item hb =>
          simp only [List.append_assoc, List.cons_append]
          rw [toOption_closeList (skipSpace_blank hb (by decide) _) (by decide)]
          rfl
  | cons k known ih =>
      intro vs index tail h htail rest draft
      cases htail with
      | listEnd hb =>
          rw [List.append_assoc]
          refine toOption_positions_close ?_ wanted draft
          rw [if_neg (Nat.succ_ne_zero index)]
          exact nextItem_listEnd hb rest
      | @item v vs b b₁ text tail hb hb₁ htext htail =>
          rw [List.forall_mem_cons] at h
          refine toOption_positions_entry ?_ h.1 htext htail (ih h.2 htail rest) draft
          obtain ⟨c, text, rfl, hc⟩ := written_head htext
          rw [if_neg (Nat.succ_ne_zero index)]
          simpa using nextItem_item hb hb₁ hc (text ++ (tail ++ rest))

theorem toOption_readList {R : Record σ α} (hfields : R.fields = known.map (·.field))
    {vs : List Json} (h : ∀ v ∈ vs, Fits levels v) {text : List Char}
    (htext : Written (.value (.array vs)) ('[' :: text)) (rest : List Char) :
    (R.readList levels (text ++ rest)).toOption =
      (R.value? known (.array vs)).map (·, rest) := by
  have hitems : (Record.positions R.wantedItems levels 0 R.fields R.empty (text ++ rest)).toOption =
      (KnownField.items? known R.empty vs).map (·, rest) := by
    rw [hfields]
    cases htext with
    | emptyList hb =>
        rw [List.append_eq, List.append_assoc, List.singleton_append]
        cases known with
        | nil =>
            rw [List.map_nil, toOption_positions_nil, closeList_listEnd hb rest]
            rfl
        | cons k known =>
            refine toOption_positions_close ?_ R.wantedItems R.empty
            rw [if_pos rfl]
            exact firstItem_listEnd hb rest
    | @list v vs b text tail hb htext htail =>
        rw [List.forall_mem_cons] at h
        cases known with
        | nil =>
            obtain ⟨c, text, rfl, hc⟩ := written_head htext
            simp only [List.map_nil, toOption_positions_nil, List.append_eq, List.append_assoc,
              List.cons_append]
            rw [toOption_closeList (skipSpace_blank hb hc.1 _) hc.2]
            rfl
        | cons k known =>
            refine toOption_positions_entry ?_ h.1 htext htail
              (toOption_positions_written _ h.2 htail rest) R.empty
            obtain ⟨c, text, rfl, hc⟩ := written_head htext
            rw [if_pos rfl]
            simpa using firstItem_item hb hc (text ++ (tail ++ rest))
  rw [Record.readList, Record.value?]
  exact toOption_conclude R _ _ rest hitems

end

theorem reads_record {R : Record σ α} {known : List (KnownField σ)}
    (hfields : R.fields = known.map (·.field)) : R.decoder.Reads (R.value? known) := by
  intro levels v hfits
  cases hfits with
  | array hvs =>
      intro b text rest hb htext _
      obtain ⟨c, text, rfl, rfl⟩ := written_begins htext
      have hopen : isSpace '[' = false := by decide
      rw [List.append_assoc, List.cons_append, ← toOption_readList hfields hvs htext rest]
      simp [Record.decoder, Record.read, skipSpace_blank hb hopen]
  | object hms =>
      intro b text rest hb htext _
      obtain ⟨es, hes, hstand⟩ := exists_objectText hms htext
      exact toOption_decoder_object hfields hstand hb hes rest
  | null | bool | integer | string =>
      refine gives_none fun b rest c hb hc => ?_
      have hbracket : c ≠ '[' := ne_bracket hc (by simp)
      have hbrace : c ≠ '\x7b' := ne_brace hc (by simp)
      simp only [Record.decoder, Record.read, skipSpace_blank hb (startsValue_of_begins hc).1,
        if_neg hbracket, if_neg hbrace]
      rfl

end DartTriggers.Json
