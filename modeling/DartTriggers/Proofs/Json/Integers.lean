import DartTriggers.Proofs.Json.Numbers
/-!
Integers as they are written. One that fits 64 bits is read back as itself.
-/

namespace DartTriggers.Json

namespace Numeral

theorem isDigit_toDigits {n : Nat} : ∀ c ∈ Nat.toDigits 10 n, c.isDigit = true :=
  fun _ hc => Nat.isDigit_of_mem_toDigits (by decide) (by decide) hc

/-- Only zero is written with a zero in front. -/
theorem head?_toDigits {n : Nat} (hn : 0 < n) : (Nat.toDigits 10 n).head? ≠ some '0' := by
  induction n using Nat.strongRecOn with
  | ind n ih =>
      by_cases hsmall : n < 10
      · rw [Nat.toDigits_of_lt_base hsmall]
        interval_cases n <;> decide
      · rw [Nat.toDigits_of_base_le (by decide) (by omega), List.head?_append]
        have hhead := ih (n / 10) (by omega) (by omega)
        cases hfirst : (Nat.toDigits 10 (n / 10)).head? with
        | none => exact absurd (List.head?_eq_none_iff.mp hfirst) Nat.toDigits_ne_nil
        | some c =>
            rw [hfirst] at hhead
            exact hhead

theorem whole_toDigits (n : Nat) : Whole (Nat.toDigits 10 n) := by
  cases n with
  | zero => exact .zero
  | succ n =>
      have hhead := head?_toDigits (Nat.succ_pos n)
      have hdigits : ∀ c ∈ Nat.toDigits 10 (n + 1), c.isDigit = true := isDigit_toDigits
      cases hcs : Nat.toDigits 10 (n + 1) with
      | nil => exact absurd hcs Nat.toDigits_ne_nil
      | cons c cs =>
          rw [hcs, List.forall_mem_cons] at hdigits
          rw [hcs, List.head?_cons] at hhead
          exact .digits hdigits.1 (fun hc => hhead (by rw [hc])) hdigits.2

theorem unsigned_toDigits (n : Nat) : Unsigned (Nat.toDigits 10 n) := by
  have hunsigned := Unsigned.mk (whole_toDigits n) .none .none
  rwa [List.append_nil, List.append_nil] at hunsigned

theorem read_toDigits (atEnd : Cause) (negative : Bool) (n : Nat) {rest : List Char}
    (hrest : Delimited rest) : read atEnd negative (Nat.toDigits 10 n ++ rest) =
      .ok (⟨negative, (Nat.toDigits 10 n).map digitValue, [], none⟩, rest) := by
  have hnone : NoDigit rest := noDigit_of_delimited hrest
  have hfraction := fractionPart_append atEnd .none hnone (head?_ne_point_of_delimited hrest)
  rw [List.nil_append, List.tail_nil, List.map_nil] at hfraction
  simp only [read, wholePart_append atEnd (whole_toDigits n) hnone, hfraction,
    exponentPart_none atEnd (ne_letter_of_delimited hrest)]

theorem le_ofDigitChars (cs : List Char) (n : Nat) : n ≤ Nat.ofDigitChars 10 cs n := by
  induction cs generalizing n with
  | nil => exact Nat.le_refl n
  | cons c cs ih =>
      have hstep := ih (10 * n + (c.toNat - '0'.toNat))
      rw [Nat.ofDigitChars, List.foldl_cons]
      exact Nat.le_trans (by omega) hstep

theorem gather_map_digitValue {cs : List Char} {n : Nat}
    (h : Nat.ofDigitChars 10 cs n ≤ 18446744073709551615) :
    gather n (cs.map digitValue) = (Nat.ofDigitChars 10 cs n, []) := by
  induction cs generalizing n with
  | nil => rfl
  | cons c cs ih =>
      have hstep : Nat.ofDigitChars 10 (c :: cs) n =
          Nat.ofDigitChars 10 cs (n * 10 + digitValue c) := by
        rw [Nat.ofDigitChars, Nat.ofDigitChars, List.foldl_cons, Nat.mul_comm]
        rfl
      rw [hstep] at h ⊢
      have hle := le_ofDigitChars cs (n * 10 + digitValue c)
      have hlt : n * 10 + digitValue c < Nat.pow 2 64 := Nat.lt_succ_of_le (Nat.le_trans hle h)
      rw [List.map_cons, gather, if_pos hlt]
      exact ih h

theorem gather_toDigits {n : Nat} (hn : n ≤ 18446744073709551615) :
    gather 0 ((Nat.toDigits 10 n).map digitValue) = (n, []) := by
  have hvalue := Nat.ofDigitChars_toDigits (b := 10) (n := n) (by decide) (by decide)
  rw [gather_map_digitValue (by rw [hvalue]; exact hn), hvalue]

end Numeral

open Numeral

theorem readNumber_toDigits {n : Nat} (hn : n ≤ 18446744073709551615) {rest : List Char}
    (hrest : Delimited rest) :
    readNumber false (Nat.toDigits 10 n ++ rest) = .ok (.integer n, rest) := by
  simp [readNumber, read_toDigits .endInValue false n hrest, Numeral.value, gather_toDigits hn]

theorem readNumber_negative {n : Nat} (hpos : 0 < n) (hn : n ≤ 9223372036854775808)
    {rest : List Char} (hrest : Delimited rest) :
    readNumber true (Nat.toDigits 10 n ++ rest) = .ok (.integer (-n), rest) := by
  have hgather := gather_toDigits (n := n) (by omega)
  have hrange : 0 < n ∧ n ≤ Nat.pow 2 63 := ⟨hpos, hn⟩
  simp [readNumber, read_toDigits .endInValue true n hrest, Numeral.value, hgather, hrange]

theorem isDigit_of_toDigits {n : Nat} {c : Char} {text : List Char}
    (htext : Nat.toDigits 10 n = c :: text) : Numeral.isDigit c = true := by
  rw [Numeral.isDigit_eq]
  exact Numeral.isDigit_toDigits (n := n) c (by simp [htext])

theorem ne_of_isDigit {c d : Char} (hc : Numeral.isDigit c = true)
    (hd : Numeral.isDigit d = false) : c ≠ d := by
  rintro rfl
  rw [hc] at hd
  cases hd

theorem numberText_integer (n : Int) : NumberText (JsonNumber.integer n).chars := by
  by_cases hn : n < 0
  · have hchars : (JsonNumber.integer n).chars = '-' :: Nat.toDigits 10 n.natAbs := if_pos hn
    rw [hchars]
    exact .negative (Numeral.unsigned_toDigits n.natAbs)
  · have hchars : (JsonNumber.integer n).chars = Nat.toDigits 10 n.toNat := if_neg hn
    rw [hchars]
    exact .positive (Numeral.unsigned_toDigits n.toNat)

theorem ofList_chars_integer (n : Int) :
    String.ofList (JsonNumber.integer n).chars = toString n := by
  cases n with
  | ofNat n => exact Nat.toString_eq_ofList_toDigits.symm
  | negSucc n =>
      have hrepr : toString (Int.negSucc n) = "-" ++ toString (n + 1) := rfl
      have hchars : (JsonNumber.integer (Int.negSucc n)).chars = '-' :: Nat.toDigits 10 (n + 1) :=
        if_pos (Int.negSucc_lt_zero n)
      rw [hrepr, hchars, Nat.toString_eq_ofList_toDigits, ← String.toList_inj]
      simp

end DartTriggers.Json
