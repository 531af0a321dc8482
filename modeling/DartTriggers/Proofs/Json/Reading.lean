import Mathlib.Data.List.TakeWhile
import DartTriggers.Json.Record
import DartTriggers.Proofs.Json.Written
/-!
Readers on written values. What a reader makes of a value, taken or refused, depends on the value
alone and not on the way in which it is written; there is one law of this kind for each way to build
a reader.
-/

namespace DartTriggers.Json

/-- However the value is written and whatever stands after it, the reader gives `x?`, or refuses
the value if that is none. -/
def Reader.Gives {α : Type} (r : Reader α) (v : Json) (x? : Option α) : Prop :=
  ∀ ⦃b text rest : List Char⦄, Blank b → Written (.value v) text → Delimited rest →
    (r.run (b ++ text ++ rest)).toOption = x?.map (·, rest)

/-- The decoder gives of all values that fit what the function does. -/
def Decoder.Reads {α : Type} (d : Decoder α) (f : Json → Option α) : Prop :=
  ∀ ⦃levels : Nat⦄ ⦃v : Json⦄, Fits levels v → (d levels).Gives v (f v)

variable {α β : Type}

@[simp]
theorem toOption_ok {ε : Type} (x : α) : (Except.ok x : Except ε α).toOption = some x :=
  rfl

@[simp]
theorem toOption_error {ε : Type} (e : ε) : (Except.error e : Except ε α).toOption = none :=
  rfl

theorem toOption_eq_some {ε : Type} {e : Except ε α} {x : α} :
    e.toOption = some x ↔ e = .ok x := by
  cases e <;> simp

theorem toOption_eq_none {ε : Type} {e : Except ε α} :
    e.toOption = none ↔ ∃ fault, e = .error fault := by
  cases e <;> simp

/-- To refuse a value, it is enough to refuse what it can begin with. -/
theorem gives_none {r : Reader α} {v : Json}
    (h : ∀ ⦃b rest : List Char⦄ ⦃c : Char⦄, Blank b → Begins v c →
      (r.run (b ++ c :: rest)).toOption = none) : r.Gives v none := by
  intro b text rest hb htext _
  obtain ⟨c, text, rfl, hc⟩ := written_begins htext
  rw [List.append_assoc, List.cons_append, h hb hc]
  rfl

theorem toOption_map (r : Reader α) (f : α → β) (s : List Char) :
    ((r.map f).run s).toOption = (r.run s).toOption.map (Prod.map f id) := by
  simp only [Reader.map]
  cases r.run s <;> rfl

theorem reads_map {d : Decoder α} {f : Json → Option α} (h : d.Reads f) (g : α → β) :
    (d.map g).Reads fun v => (f v).map g := by
  intro levels v hfits b text rest hb htext hrest
  rw [Decoder.map, toOption_map, h hfits hb htext hrest, Option.map_map, Option.map_map]
  rfl

def string? : Json → Option String
  | .string s => some s
  | _ => none

theorem reads_text : Decoder.text.Reads string? := by
  intro levels v hfits
  cases v with
  | string s =>
      intro b text rest hb htext _
      cases htext with
      | string hs =>
          simp [Decoder.text, Reader.text, skipSpace_blank hb (by decide : isSpace '"' = false),
            stringBody_spelled hs, string?]
  | null | bool _ | number _ | array _ | object _ =>
      refine gives_none fun b rest c hb hc => ?_
      have hquote : c ≠ '"' := ne_quote hc (by simp)
      simp only [Decoder.text, Reader.text, skipSpace_blank hb (startsValue_of_begins hc).1,
        if_neg hquote]
      rfl

/-- The items of a list, each read by the function. -/
def listOf? (f : Json → Option α) : Json → Option (List α)
  | .array vs => vs.mapM f
  | _ => none

theorem nextItem_listEnd {b : List Char} (hb : Blank b) (rest : List Char) :
    nextItem (b ++ ']' :: rest) = .ok (.close rest) := by
  rw [nextItem, skipSpace_blank hb (by decide)]
  rfl

theorem nextItem_item {b b₁ : List Char} (hb : Blank b) (hb₁ : Blank b₁) {c : Char}
    (hc : StartsValue c) (rest : List Char) :
    nextItem (b ++ ',' :: (b₁ ++ c :: rest)) = .ok (.entry (c :: rest)) := by
  rw [nextItem, skipSpace_blank hb (by decide)]
  simp [skipSpace_blank hb₁ hc.1, hc.2]

theorem firstItem_listEnd {b : List Char} (hb : Blank b) (rest : List Char) :
    firstItem (b ++ ']' :: rest) = .ok (.close rest) := by
  rw [firstItem, skipSpace_blank hb (by decide)]
  rfl

theorem firstItem_item {b : List Char} (hb : Blank b) {c : Char} (hc : StartsValue c)
    (rest : List Char) : firstItem (b ++ c :: rest) = .ok (.entry (c :: rest)) := by
  simp [firstItem, skipSpace_blank hb hc.1, hc.2]

theorem nextKey_objectEnd {b : List Char} (hb : Blank b) (rest : List Char) :
    nextKey (b ++ '\x7d' :: rest) = .ok (.close rest) := by
  rw [nextKey, skipSpace_blank hb (by decide)]
  rfl

theorem nextKey_member {b b₁ : List Char} (hb : Blank b) (hb₁ : Blank b₁) (rest : List Char) :
    nextKey (b ++ ',' :: (b₁ ++ '"' :: rest)) = .ok (.entry rest) := by
  rw [nextKey, skipSpace_blank hb (by decide)]
  simp [skipSpace_blank hb₁ (by decide : isSpace '"' = false)]

theorem firstKey_objectEnd {b : List Char} (hb : Blank b) (rest : List Char) :
    firstKey (b ++ '\x7d' :: rest) = .ok (.close rest) := by
  rw [firstKey, skipSpace_blank hb (by decide)]
  rfl

theorem firstKey_member {b : List Char} (hb : Blank b) (rest : List Char) :
    firstKey (b ++ '"' :: rest) = .ok (.entry rest) := by
  rw [firstKey, skipSpace_blank hb (by decide)]
  rfl

theorem listOf?_map {f : Json → Option α} {toJson : β → Json} {g : β → α}
    (h : ∀ x, f (toJson x) = some (g x)) (xs : List β) :
    listOf? f (.array (xs.map toJson)) = some (xs.map g) := by
  have hcomp : f ∘ toJson = fun x => some (g x) := funext h
  rw [listOf?, List.mapM_map, hcomp]
  exact List.mapM_pure

theorem toOption_items (r : Reader α) (s : List Char) :
    (r.items s).toOption = (r.run s).toOption.bind fun p =>
      (nextItem p.2).toOption.bind fun
        | .close rest => some ([p.1], rest)
        | .entry rest => (r.items rest).toOption.map fun q => (p.1 :: q.1, q.2) := by
  rw [Reader.items]
  split
  · simp [*]
  · split
    · simp [*]
    · simp [*]
    · split <;> simp [*]

/-- The induction is on the items that follow the first one. -/
theorem toOption_items_written {r : Reader α} {f : Json → Option α} {vs : List Json} :
    ∀ {v : Json} {text tail : List Char}, (∀ w ∈ v :: vs, r.Gives w (f w)) →
      Written (.value v) text → Written (.items vs) tail → ∀ rest,
        (r.items (text ++ tail ++ rest)).toOption = ((v :: vs).mapM f).map (·, rest) := by
  induction vs with
  | nil =>
      intro v text tail h htext htail rest
      have hrun : (r.run (text ++ (tail ++ rest))).toOption = (f v).map (·, tail ++ rest) :=
        h v (by simp) blank_nil htext (delimited_of_written htail (by simp) rest)
      have hnext : nextItem (tail ++ rest) = .ok (.close rest) := by
        cases htail with
        | listEnd hb =>
            rw [List.append_assoc]
            exact nextItem_listEnd hb rest
      rw [toOption_items, List.append_assoc, hrun]
      cases hv : f v <;> simp [hv, hnext]
  | cons w vs ih =>
      intro v text tail h htext htail rest
      have hrun : (r.run (text ++ (tail ++ rest))).toOption = (f v).map (·, tail ++ rest) :=
        h v (by simp) blank_nil htext (delimited_of_written htail (by simp) rest)
      cases htail with
      | @item _ _ b b₁ text' tail' hb hb₁ htext' htail' =>
          have hitems := ih (fun u hu => h u (List.mem_cons_of_mem v hu)) htext' htail' rest
          obtain ⟨c, text', rfl, hc⟩ := written_head htext'
          have hnext := nextItem_item hb hb₁ hc (text' ++ (tail' ++ rest))
          simp only [List.append_assoc, List.cons_append] at hrun hitems ⊢
          rw [toOption_items, hrun, List.mapM_cons]
          cases hv : f v with
          | none => rfl
          | some x =>
              simp only [Option.map_some, Option.bind_some, hnext, toOption_ok, hitems]
              cases (w :: vs).mapM f <;> rfl

theorem toOption_list_written {r : Reader α} {f : Json → Option α} {vs : List Json}
    (h : ∀ w ∈ vs, r.Gives w (f w)) {text : List Char}
    (htext : Written (.value (.array vs)) ('[' :: text)) (rest : List Char) :
    (r.list (text ++ rest)).toOption = (vs.mapM f).map (·, rest) := by
  cases htext with
  | @emptyList b' hb' =>
      rw [Reader.list, List.append_eq, List.append_assoc, List.singleton_append,
        firstItem_listEnd hb' rest]
      rfl
  | @list v vs b' text tail hb' htext htail =>
      have hitems := toOption_items_written h htext htail rest
      obtain ⟨c, text, rfl, hc⟩ := written_head htext
      have hfirst := firstItem_item hb' hc (text ++ (tail ++ rest))
      simp_all [Reader.list]

theorem reads_list {d : Decoder α} {f : Json → Option α} (h : d.Reads f) :
    d.list.Reads (listOf? f) := by
  intro levels v hfits
  cases hfits with
  | array hvs =>
      intro b text rest hb htext hrest
      obtain ⟨c, text, rfl, rfl⟩ := written_begins htext
      have hlist := toOption_list_written (fun v hv => h (hvs v hv)) htext rest
      rw [List.append_assoc, List.cons_append]
      simp only [Decoder.list, skipSpace_blank hb (by decide : isSpace '[' = false), if_true]
      exact hlist
  | null | bool | integer | string | object =>
      refine gives_none fun b rest c hb hc => ?_
      have hbracket : c ≠ '[' := ne_bracket hc (by simp)
      simp only [Decoder.list, skipSpace_blank hb (startsValue_of_begins hc).1,
        if_neg hbracket]
      rfl

theorem toOption_decode_of_run {d : Decoder α} {x? : Option α} {text b' : List Char}
    (hb' : Blank b') (hrun : ((d levelLimit).run (text ++ b')).toOption = x?.map (·, b')) :
    (decode d (String.ofList (text ++ b'))).toOption = x? := by
  have hspace : skipSpace b' = [] := List.dropWhile_eq_nil_iff.mpr hb'
  rw [decode, String.toList_ofList]
  cases x? with
  | none =>
      rw [Option.map_none, toOption_eq_none] at hrun
      obtain ⟨fault, hfault⟩ := hrun
      rw [hfault]
      rfl
  | some x =>
      rw [Option.map_some, toOption_eq_some] at hrun
      simp only [hrun, hspace, toOption_ok]

/-- A document with nothing but blanks around a value is read as the value is. -/
theorem toOption_decode {d : Decoder α} {f : Json → Option α} (h : d.Reads f) {v : Json}
    (hfits : Fits levelLimit v) {b text b' : List Char} (hb : Blank b)
    (htext : Written (.value v) text) (hb' : Blank b') :
    (decode d (String.ofList (b ++ text ++ b'))).toOption = f v := by
  have hrest : Delimited b' := by
    simpa using delimited_blank_append hb' delimited_nil
  exact toOption_decode_of_run hb' (h hfits hb htext hrest)

/-- Both layouts of a value are read as the value is. -/
theorem toOption_decode_text {d : Decoder α} {f : Json → Option α} (h : d.Reads f) {v : Json}
    (hfits : Fits levelLimit v) (isPretty : Bool) :
    (decode d (v.text isPretty)).toOption = f v := by
  have hread := toOption_decode h hfits blank_nil (written_text isPretty v) blank_nil
  simpa using hread

theorem decode_text_eq_ok {d : Decoder α} {f : Json → Option α} (h : d.Reads f) {v : Json}
    (hfits : Fits levelLimit v) {x : α} (hvalue : f v = some x) (isPretty : Bool) :
    decode d (v.text isPretty) = .ok x := by
  rw [← toOption_eq_some, toOption_decode_text h hfits isPretty, hvalue]

end DartTriggers.Json
