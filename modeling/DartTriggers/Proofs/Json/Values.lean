import DartTriggers.Proofs.Json.Integers
import DartTriggers.Proofs.Json.Reading
/-!
Any value is read as itself, however it is written.
-/

namespace DartTriggers.Json

variable {α : Type}

theorem scalar_integer {n : Int} (hn : -9223372036854775808 ≤ n ∧ n ≤ 18446744073709551615)
    {rest : List Char} (hrest : Delimited rest) :
    Decoder.scalar ((JsonNumber.integer n).chars ++ rest) = .ok (.number (.integer n), rest) := by
  by_cases hneg : n < 0
  · have hchars : (JsonNumber.integer n).chars = '-' :: Nat.toDigits 10 n.natAbs := if_pos hneg
    have hread := readNumber_negative (n := n.natAbs) (by omega) (by omega) hrest
    have habs : -(n.natAbs : Int) = n := by omega
    rw [habs] at hread
    rw [hchars, List.cons_append]
    simp [Decoder.scalar, hread]
  · have hchars : (JsonNumber.integer n).chars = Nat.toDigits 10 n.toNat := if_neg hneg
    have hread := readNumber_toDigits (n := n.toNat) (by omega) hrest
    have hnat : (n.toNat : Int) = n := by omega
    rw [hnat] at hread
    rw [hchars]
    cases htext : Nat.toDigits 10 n.toNat with
    | nil => exact absurd htext Nat.toDigits_ne_nil
    | cons c text =>
        have hdigit : Numeral.isDigit c = true := isDigit_of_toDigits htext
        rw [htext, List.cons_append] at hread
        rw [List.cons_append, Decoder.scalar]
        simp only [if_neg (ne_of_isDigit hdigit (d := '"') (by decide)),
          if_neg (ne_of_isDigit hdigit (d := 'n') (by decide)),
          if_neg (ne_of_isDigit hdigit (d := 't') (by decide)),
          if_neg (ne_of_isDigit hdigit (d := 'f') (by decide)),
          if_neg (ne_of_isDigit hdigit (d := '-') (by decide)), if_pos hdigit, hread]

theorem gives_any_of_scalar {v : Json} (levels : Nat) (hlist : ∀ vs, v ≠ .array vs)
    (hobject : ∀ ms, v ≠ .object ms)
    (h : ∀ ⦃text rest : List Char⦄, Written (.value v) text → Delimited rest →
      Decoder.scalar (text ++ rest) = .ok (v, rest)) : (Decoder.any levels).Gives v (some v) := by
  intro b text rest hb htext hrest
  have hscalar : (Decoder.scalar (text ++ rest)).toOption = (some v).map (·, rest) := by
    rw [h htext hrest]
    rfl
  obtain ⟨c, text, rfl, hc⟩ := written_begins htext
  have hbracket : c ≠ '[' := ne_bracket hc hlist
  have hbrace : c ≠ '\x7b' := ne_brace hc hobject
  rw [List.append_assoc]
  cases levels <;>
    simpa only [Decoder.any, Decoder.anyAbove, List.cons_append,
      skipSpace_blank hb (startsValue_of_begins hc).1, if_neg hbracket, if_neg hbrace]
      using hscalar

theorem readerMembers_of_close {r : Reader α} {s key s₁ s₂ s₃ rest : List Char} {x : α}
    (hkey : stringBody s = .ok (key, s₁)) (hcolon : colon s₁ = .ok s₂)
    (hrun : r.run s₂ = .ok (x, s₃)) (hnext : nextKey s₃ = .ok (.close rest)) :
    r.members s = .ok ([(.ofList key, x)], rest) := by
  rw [Reader.members]
  split <;> simp_all
  split <;> simp_all
  split <;> simp_all
  split <;> simp_all

theorem readerMembers_of_entry {r : Reader α} {s key s₁ s₂ s₃ s₄ rest : List Char} {x : α}
    {xs : List (String × α)} (hkey : stringBody s = .ok (key, s₁)) (hcolon : colon s₁ = .ok s₂)
    (hrun : r.run s₂ = .ok (x, s₃)) (hnext : nextKey s₃ = .ok (.entry s₄))
    (hrest : r.members s₄ = .ok (xs, rest)) :
    r.members s = .ok ((.ofList key, x) :: xs, rest) := by
  rw [Reader.members]
  split <;> simp_all
  split <;> simp_all
  split <;> simp_all
  split <;> simp_all

/-- The induction is on the members that follow the first one. -/
theorem readerMembers_written {r : Reader Json} {ms : List (String × Json)} :
    ∀ {key : String} {v : Json} {name b b' text tail : List Char},
      (∀ m ∈ (key, v) :: ms, r.Gives m.2 (some m.2)) → Spelled key.toList name → Blank b →
        Blank b' → Written (.value v) text → Written (.members ms) tail → ∀ rest,
          r.members (name ++ '"' :: (b ++ ':' :: (b' ++ text ++ (tail ++ rest)))) =
            .ok ((key, v) :: ms, rest) := by
  induction ms with
  | nil =>
      intro key v name b b' text tail h hkey hb hb' htext htail rest
      have hrun := toOption_eq_some.mp <|
        h (key, v) (by simp) hb' htext (delimited_of_written htail (by simp) rest)
      have hnext : nextKey (tail ++ rest) = .ok (.close rest) := by
        cases htail with
        | objectEnd hend =>
            rw [List.append_assoc]
            exact nextKey_objectEnd hend rest
      rw [readerMembers_of_close (stringBody_spelled hkey _) (colon_blank hb _) hrun hnext,
        String.ofList_toList]
  | cons m ms ih =>
      intro key v name b b' text tail h hkey hb hb' htext htail rest
      have hrun := toOption_eq_some.mp <|
        h (key, v) (by simp) hb' htext (delimited_of_written htail (by simp) rest)
      cases htail with
      | @member key' v' _ b₁ b₂ name' b₃ b₄ text' tail' hb₁ hb₂ hkey' hb₃ hb₄ htext' htail' =>
          have hrest := ih (fun m hm => h m (List.mem_cons_of_mem _ hm)) hkey' hb₃ hb₄ htext'
            htail' rest
          have hnext := nextKey_member hb₁ hb₂
            (name' ++ '"' :: (b₃ ++ ':' :: (b₄ ++ text' ++ (tail' ++ rest))))
          simp only [List.append_assoc, List.cons_append] at hrun hrest hnext ⊢
          rw [readerMembers_of_entry (stringBody_spelled hkey _) (colon_blank hb _) hrun hnext
            hrest, String.ofList_toList]

theorem object_written {r : Reader Json} {ms : List (String × Json)}
    (h : ∀ m ∈ ms, r.Gives m.2 (some m.2)) {text : List Char}
    (htext : Written (.value (.object ms)) ('\x7b' :: text)) (rest : List Char) :
    r.object (text ++ rest) = .ok (ms, rest) := by
  cases htext with
  | emptyObject hb =>
      rw [Reader.object, List.append_eq, List.append_assoc, List.singleton_append,
        firstKey_objectEnd hb rest]
  | @object key v ms b name b₁ b₂ text tail hb hkey hb₁ hb₂ htext htail =>
      have hmembers := readerMembers_written h hkey hb₁ hb₂ htext htail rest
      have hfirst := firstKey_member hb
        (name ++ '"' :: (b₁ ++ ':' :: (b₂ ++ text ++ (tail ++ rest))))
      simp_all [Reader.object]

/-- The induction is on why the value fits, which follows the levels down. -/
theorem gives_any {levels : Nat} {v : Json} (hfits : Fits levels v) :
    (Decoder.any levels).Gives v (some v) := by
  induction hfits with
  | null levels =>
      refine gives_any_of_scalar levels (by simp) (by simp) fun text rest htext _ => ?_
      cases htext
      rfl
  | bool levels b =>
      refine gives_any_of_scalar levels (by simp) (by simp) fun text rest htext _ => ?_
      cases htext
      cases b <;> rfl
  | integer levels hn =>
      refine gives_any_of_scalar levels (by simp) (by simp) fun text rest htext hrest => ?_
      cases htext
      exact scalar_integer hn hrest
  | string levels s =>
      refine gives_any_of_scalar levels (by simp) (by simp) fun text rest htext _ => ?_
      cases htext with
      | string hs => simp [Decoder.scalar, stringBody_spelled hs]
  | @array levels vs hvs ih =>
      intro b text rest hb htext hrest
      obtain ⟨c, text, rfl, rfl⟩ := written_begins htext
      have hlist := toOption_list_written ih htext rest
      have hsome : vs.mapM some = some vs := by
        simpa using List.mapM_pure (m := Option) (l := vs) (f := id)
      rw [hsome, Option.map_some, toOption_eq_some] at hlist
      have hopen : isSpace '[' = false := by decide
      rw [List.append_assoc, List.cons_append]
      simp [Decoder.any, Decoder.anyAbove, skipSpace_blank hb hopen, hlist]
  | @object levels ms hms ih =>
      intro b text rest hb htext hrest
      obtain ⟨c, text, rfl, rfl⟩ := written_begins htext
      have hobject := object_written ih htext rest
      have hopen : isSpace '\x7b' = false := by decide
      rw [List.append_assoc, List.cons_append]
      simp [Decoder.any, Decoder.anyAbove, skipSpace_blank hb hopen, hobject]

theorem reads_any : Decoder.any.Reads some :=
  fun _ _ hfits => gives_any hfits

end DartTriggers.Json
