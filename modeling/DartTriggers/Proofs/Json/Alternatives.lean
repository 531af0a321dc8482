import DartTriggers.Proofs.Json.Reading
/-!
Values of few forms: truth values, values that may be missing, and names out of a table.
-/

namespace DartTriggers.Json

variable {α : Type}

theorem literal_append (letters rest : List Char) :
    literal letters (letters ++ rest) = .ok rest := by
  induction letters with
  | nil => rfl
  | cons letter letters ih => rw [List.cons_append, literal, if_pos rfl, ih]

theorem begins_letter {v : Json} {c : Char} (h : Begins v c) :
    (c = 'n' → v = .null) ∧ (c = 't' → v = .bool true) ∧ (c = 'f' → v = .bool false) := by
  cases v with
  | bool b =>
      cases b <;>
        · obtain rfl := h
          simp
  | number n =>
      refine ⟨?_, ?_, ?_⟩ <;>
        · rintro rfl
          simp [Begins] at h
  | _ =>
      obtain rfl := h
      simp

def bool? : Json → Option Bool
  | .bool b => some b
  | _ => none

theorem reads_flag : Decoder.flag.Reads bool? := by
  intro levels v _
  cases v with
  | bool b =>
      intro b' text rest hb htext _
      cases htext
      cases b with
      | true =>
          have hletters : literal ['r', 'u', 'e'] ('r' :: 'u' :: 'e' :: rest) = .ok rest :=
            literal_append _ rest
          simp [Decoder.flag, boolChars, skipSpace_blank hb (by decide : isSpace 't' = false),
            hletters, bool?]
      | false =>
          have hletters : literal ['a', 'l', 's', 'e'] ('a' :: 'l' :: 's' :: 'e' :: rest) =
              .ok rest :=
            literal_append _ rest
          simp [Decoder.flag, boolChars, skipSpace_blank hb (by decide : isSpace 'f' = false),
            hletters, bool?]
  | null | number _ | string _ | array _ | object _ =>
      refine gives_none fun b rest c hb hc => ?_
      have htrue : c ≠ 't' := fun h => by simpa using (begins_letter hc).2.1 h
      have hfalse : c ≠ 'f' := fun h => by simpa using (begins_letter hc).2.2 h
      simp only [Decoder.flag, skipSpace_blank hb (startsValue_of_begins hc).1, if_neg htrue,
        if_neg hfalse]
      rfl

/-- A value that is read by the function, or null for none. -/
def optional? (f : Json → Option α) : Json → Option (Option α)
  | .null => some none
  | v => (f v).map some

theorem optional?_of_ne_null {v : Json} (h : v ≠ .null) (f : Json → Option α) :
    optional? f v = (f v).map some := by
  cases v with
  | null => exact absurd rfl h
  | bool | number | string | array | object => rfl

theorem readOptional_null {s rest : List Char} (h : skipSpace s = 'n' :: 'u' :: 'l' :: 'l' :: rest)
    (r : Reader α) : Decoder.readOptional r s = .ok (none, rest) := by
  have hletters : literal ['u', 'l', 'l'] ('u' :: 'l' :: 'l' :: rest) = .ok rest :=
    literal_append _ rest
  simp [Decoder.readOptional, h, hletters]

theorem toOption_readOptional {s rest : List Char} {c : Char} (h : skipSpace s = c :: rest)
    (hc : c ≠ 'n') (r : Reader α) :
    (Decoder.readOptional r s).toOption = (r.run (c :: rest)).toOption.map (Prod.map some id) := by
  simp only [Decoder.readOptional, h, if_neg hc]
  cases r.run (c :: rest) <;> rfl

theorem reads_optional {d : Decoder α} {f : Json → Option α} (h : d.Reads f) :
    (Decoder.optional d).Reads (optional? f) := by
  intro levels v hfits b text rest hb htext hrest
  by_cases hnull : v = .null
  · obtain rfl := hnull
    cases htext
    have hskip := skipSpace_blank hb (by decide : isSpace 'n' = false)
      ('u' :: 'l' :: 'l' :: rest)
    rw [List.append_assoc]
    change (Decoder.readOptional (d levels) (b ++ 'n' :: 'u' :: 'l' :: 'l' :: rest)).toOption = _
    rw [readOptional_null hskip]
    rfl
  · obtain ⟨c, text, rfl, hc⟩ := written_begins htext
    have hc' : c ≠ 'n' := fun h => hnull ((begins_letter hc).1 h)
    have hskip := skipSpace_blank hb (startsValue_of_begins hc).1 (text ++ rest)
    have hrun : ((d levels).run (c :: (text ++ rest))).toOption = (f v).map (·, rest) :=
      h hfits blank_nil htext hrest
    rw [List.append_assoc]
    change (Decoder.readOptional (d levels) _).toOption = _
    rw [List.cons_append, toOption_readOptional hskip hc', hrun, optional?_of_ne_null hnull,
      Option.map_map, Option.map_map]
    rfl

/-- The value of a name, given as a string or as the only key of an object that holds null. -/
def choice? (names : List (String × α)) : Json → Option α
  | .string name => names.lookup name
  | .object [(name, .null)] => names.lookup name
  | _ => none

def null? : Json → Option Unit
  | .null => some ()
  | _ => none

theorem toOption_nullNamed (wanted : String) {v : Json} {b text : List Char} (hb : Blank b)
    (htext : Written (.value v) text) (rest : List Char) :
    ((nullNamed wanted).run (b ++ text ++ rest)).toOption = (null? v).map (·, rest) := by
  obtain ⟨c, text, rfl, hc⟩ := written_begins htext
  have hskip := skipSpace_blank hb (startsValue_of_begins hc).1 (text ++ rest)
  rw [List.append_assoc, List.cons_append]
  cases v with
  | null =>
      cases htext
      have hletters : literal ['u', 'l', 'l'] ('u' :: 'l' :: 'l' :: rest) = .ok rest :=
        literal_append _ rest
      simp only [List.cons_append, List.nil_append] at hskip ⊢
      simp [nullNamed, hskip, hletters, null?]
  | bool | number | string | array | object =>
      have hc' : c ≠ 'n' := fun h => by simpa using (begins_letter hc).1 h
      simp only [nullNamed, hskip, if_neg hc']
      rfl

theorem toOption_onlyNull {v : Json} {ms : List (String × Json)} {b b' text tail : List Char}
    (hb : Blank b) (hb' : Blank b') (htext : Written (.value v) text)
    (htail : Written (.members ms) tail) (rest : List Char) :
    (Decoder.onlyNull (b ++ ':' :: (b' ++ text ++ (tail ++ rest)))).toOption =
      (null? v).bind fun _ => if ms.isEmpty then some rest else none := by
  have hnull := toOption_nullNamed "unit" hb' htext (tail ++ rest)
  simp only [Decoder.onlyNull, colon_blank hb]
  cases hread : (nullNamed "unit").run (b' ++ text ++ (tail ++ rest)) with
  | error fault =>
      rw [hread] at hnull
      cases hv : null? v with
      | none => rfl
      | some _ => simp [hv] at hnull
  | ok found =>
      obtain ⟨_, left⟩ := found
      rw [hread] at hnull
      cases hv : null? v with
      | none => simp [hv] at hnull
      | some _ =>
          obtain rfl : left = tail ++ rest := by simpa [hv] using hnull
          cases htail with
          | objectEnd hend =>
              have hskip := skipSpace_blank hend (by decide : isSpace '\x7d' = false) rest
              simp [hskip]
          | member hcomma =>
              have hskip := fun s => skipSpace_blank hcomma (by decide : isSpace ',' = false) s
              simp [hskip]

theorem toOption_keyedName (names : List (String × α)) {ms : List (String × Json)}
    {text : List Char} (htext : Written (.value (.object ms)) ('\x7b' :: text))
    (rest : List Char) :
    (Decoder.keyedName names (text ++ rest)).toOption =
      (choice? names (.object ms)).map (·, rest) := by
  cases htext with
  | emptyObject hb =>
      rw [Decoder.keyedName, List.append_eq, List.append_assoc, List.singleton_append,
        firstKey_objectEnd hb rest]
      rfl
  | @object key v ms b name b₁ b₂ text tail hb hkey hb₁ hb₂ htext htail =>
      have hfirst := firstKey_member hb
        (name ++ '"' :: (b₁ ++ ':' :: (b₂ ++ text ++ (tail ++ rest))))
      have hbody := stringBody_spelled hkey (b₁ ++ ':' :: (b₂ ++ text ++ (tail ++ rest)))
      have honly := toOption_onlyNull hb₁ hb₂ htext htail rest
      have hchoice : choice? names (.object ((key, v) :: ms)) =
          (names.lookup key).bind fun x =>
            (null? v).bind fun _ => if ms.isEmpty then some x else none := by
        cases v <;> cases ms <;> simp [choice?, null?]
      rw [hchoice]
      simp only [List.append_eq, List.append_assoc, List.cons_append] at hfirst hbody honly ⊢
      simp only [Decoder.keyedName, hfirst, hbody, String.ofList_toList, Decoder.named]
      cases names.lookup key with
      | none => rfl
      | some x =>
          simp only [Option.bind_some]
          cases hread : Decoder.onlyNull (b₁ ++ ':' :: (b₂ ++ (text ++ (tail ++ rest)))) with
          | error fault =>
              rw [hread] at honly
              cases hv : null? v <;> cases hms : ms.isEmpty <;> simp_all
          | ok left =>
              rw [hread] at honly
              cases hv : null? v <;> cases hms : ms.isEmpty <;> simp_all

theorem reads_choice (names : List (String × α)) :
    (Decoder.choice names).Reads (choice? names) := by
  intro levels v hfits
  cases hfits with
  | string _ name =>
      intro b text rest hb htext _
      cases htext with
      | string hs =>
          simp only [Decoder.choice, List.append_assoc, List.cons_append,
            skipSpace_blank hb (by decide : isSpace '"' = false), if_true, stringBody_spelled hs,
            String.ofList_toList, List.nil_append, Decoder.named, choice?]
          cases names.lookup name <;> rfl
  | object hms =>
      intro b text rest hb htext _
      obtain ⟨c, text, rfl, rfl⟩ := written_begins htext
      have hopen : isSpace '\x7b' = false := by decide
      rw [List.append_assoc, List.cons_append, ← toOption_keyedName names htext rest]
      simp [Decoder.choice, skipSpace_blank hb hopen]
  | null | bool | integer | array =>
      refine gives_none fun b rest c hb hc => ?_
      have hquote : c ≠ '"' := ne_quote hc (by simp)
      have hbrace : c ≠ '\x7b' := ne_brace hc (by simp)
      simp only [Decoder.choice, skipSpace_blank hb (startsValue_of_begins hc).1, if_neg hquote,
        if_neg hbrace]
      rfl

end DartTriggers.Json
