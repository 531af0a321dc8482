import DartTriggers.Proofs.Json.Written
/-!
The ways to write a number: digits, a point with more digits, and an exponent. Where a number is read
depends on its form alone, whatever it is worth.
-/

namespace DartTriggers.Json

namespace Numeral

theorem isDigit_eq (c : Char) : isDigit c = c.isDigit := by
  simp only [isDigit, Char.isDigit]
  rfl

/-- The text does not go on with a digit. -/
def NoDigit (rest : List Char) : Prop :=
  ∀ c ∈ rest.head?, isDigit c = false

/-- The digits before the point. A zero is the first of them only if it is the last one. -/
inductive Whole : List Char → Prop
  | zero : Whole ['0']
  | digits {c : Char} {cs : List Char} (hc : c.isDigit = true) (hzero : c ≠ '0')
      (hcs : ∀ d ∈ cs, d.isDigit = true) : Whole (c :: cs)

/-- A point and one digit or more, or nothing. -/
inductive Fraction : List Char → Prop
  | none : Fraction []
  | digits {cs : List Char} (hne : cs ≠ []) (hcs : ∀ d ∈ cs, d.isDigit = true) :
      Fraction ('.' :: cs)

/-- A letter, perhaps a sign, and one digit or more, or nothing. -/
inductive Exponent : List Char → Prop
  | none : Exponent []
  | digits {c : Char} {sign cs : List Char} (hc : c = 'e' ∨ c = 'E')
      (hsign : sign = [] ∨ sign = ['-'] ∨ sign = ['+']) (hne : cs ≠ [])
      (hcs : ∀ d ∈ cs, d.isDigit = true) : Exponent (c :: (sign ++ cs))

/-- A number without a sign. -/
inductive Unsigned : List Char → Prop
  | mk {whole fraction exponent : List Char} (hwhole : Whole whole)
      (hfraction : Fraction fraction) (hexponent : Exponent exponent) :
      Unsigned (whole ++ (fraction ++ exponent))

section

variable {cs rest : List Char} (hcs : ∀ c ∈ cs, c.isDigit = true) (hrest : NoDigit rest)

include hcs hrest

theorem digits_append : digits (cs ++ rest) = cs.map digitValue := by
  have hdigit : ∀ c ∈ cs, isDigit c = true := fun c hc => (isDigit_eq c).trans (hcs c hc)
  have hnone : rest.takeWhile isDigit = [] := by
    cases rest with
    | nil => rfl
    | cons c rest => simp [hrest c rfl]
  rw [digits, List.takeWhile_append_of_pos hdigit, hnone, List.append_nil]

theorem afterDigits_append : afterDigits (cs ++ rest) = rest := by
  have hdigit : ∀ c ∈ cs, isDigit c = true := fun c hc => (isDigit_eq c).trans (hcs c hc)
  rw [afterDigits, List.dropWhile_append_of_pos hdigit]
  cases rest with
  | nil => rfl
  | cons c rest => simp [hrest c rfl]

end

theorem digits_of_noDigit {rest : List Char} (hrest : NoDigit rest) : digits rest = [] :=
  digits_append (List.forall_mem_nil _) hrest

theorem isEmpty_map_digitValue {cs : List Char} (hne : cs ≠ []) :
    (cs.map digitValue).isEmpty = false := by
  rw [List.isEmpty_map]
  exact List.isEmpty_eq_false_iff.mpr hne

theorem wholePart_append (atEnd : Cause) {whole rest : List Char} (h : Whole whole)
    (hrest : NoDigit rest) :
    wholePart atEnd (whole ++ rest) = .ok (whole.map digitValue, rest) := by
  cases h with
  | zero =>
      rw [List.singleton_append, wholePart, if_pos rfl, digits_of_noDigit hrest]
      rfl
  | digits hc hzero hcs =>
      rw [List.cons_append, wholePart, if_neg hzero, isDigit_eq, if_pos hc,
        digits_append hcs hrest, afterDigits_append hcs hrest]
      rfl

theorem fractionPart_append (atEnd : Cause) {fraction rest : List Char} (h : Fraction fraction)
    (hrest : NoDigit rest) (hpoint : rest.head? ≠ some '.') :
    fractionPart atEnd (fraction ++ rest) = .ok (fraction.tail.map digitValue, rest) := by
  cases h with
  | none =>
      cases rest with
      | nil => rfl
      | cons c rest =>
          rw [List.nil_append, fractionPart, if_neg fun hc => hpoint (congrArg some hc)]
          rfl
  | digits hne hcs =>
      rw [List.cons_append, fractionPart, if_pos rfl, digits_append hcs hrest,
        afterDigits_append hcs hrest, isEmpty_map_digitValue hne]
      rfl

theorem exponentPart_none (atEnd : Cause) {rest : List Char}
    (hletter : ∀ c ∈ rest.head?, c ≠ 'e' ∧ c ≠ 'E') : exponentPart atEnd rest = .ok (none, rest) := by
  cases rest with
  | nil => rfl
  | cons c rest =>
      obtain ⟨hc, hc'⟩ := hletter c rfl
      rw [exponentPart, if_neg (by simp [hc, hc'])]

theorem exponentSign_append {sign cs : List Char} (hsign : sign = [] ∨ sign = ['-'] ∨ sign = ['+'])
    (hne : cs ≠ []) (hcs : ∀ c ∈ cs, c.isDigit = true) (rest : List Char) :
    (exponentSign (sign ++ cs ++ rest)).2 = cs ++ rest := by
  obtain ⟨c, cs, rfl⟩ := List.exists_cons_of_ne_nil hne
  have hminus : c ≠ '-' := by
    rintro rfl
    exact absurd (hcs _ List.mem_cons_self) (by decide)
  have hplus : c ≠ '+' := by
    rintro rfl
    exact absurd (hcs _ List.mem_cons_self) (by decide)
  rcases hsign with rfl | rfl | rfl
  · simp [exponentSign, hminus, hplus]
  · simp [exponentSign]
  · simp [exponentSign]

theorem exists_exponentPart_append (atEnd : Cause) {exponent rest : List Char}
    (h : Exponent exponent) (hrest : NoDigit rest)
    (hletter : ∀ c ∈ rest.head?, c ≠ 'e' ∧ c ≠ 'E') :
    ∃ e, exponentPart atEnd (exponent ++ rest) = .ok (e, rest) := by
  cases h with
  | none => exact ⟨none, exponentPart_none atEnd hletter⟩
  | @digits c sign cs hc hsign hne hcs =>
      refine ⟨some ((exponentSign (sign ++ cs ++ rest)).1, cs.map digitValue), ?_⟩
      have hsecond := exponentSign_append hsign hne hcs rest
      rw [List.cons_append, exponentPart, if_pos hc]
      simp only [hsecond, digits_append hcs hrest, afterDigits_append hcs hrest,
        isEmpty_map_digitValue hne]
      rfl

theorem not_isDigit_of_delimited {c : Char} {rest : List Char} (h : Delimited (c :: rest)) :
    isDigit c = false ∧ c ≠ '.' ∧ c ≠ 'e' ∧ c ≠ 'E' := by
  have hc : isSpace c = true ∨ c = ',' ∨ c = ']' ∨ c = '\x7d' := h c rfl
  simp only [isSpace, Bool.or_eq_true, beq_iff_eq] at hc
  rcases hc with (((rfl | rfl) | rfl) | rfl) | rfl | rfl | rfl <;> decide

section

variable {rest : List Char} (hrest : Delimited rest)

include hrest

theorem noDigit_of_delimited : NoDigit rest := by
  intro c hc
  obtain ⟨rest, rfl⟩ := List.head?_eq_some_iff.mp hc
  exact (not_isDigit_of_delimited hrest).1

theorem head?_ne_point_of_delimited : rest.head? ≠ some '.' := by
  intro hc
  obtain ⟨rest, rfl⟩ := List.head?_eq_some_iff.mp hc
  exact (not_isDigit_of_delimited hrest).2.1 rfl

theorem ne_letter_of_delimited : ∀ c ∈ rest.head?, c ≠ 'e' ∧ c ≠ 'E' := by
  intro c hc
  obtain ⟨rest, rfl⟩ := List.head?_eq_some_iff.mp hc
  exact (not_isDigit_of_delimited hrest).2.2

end

/-- What comes after the digits of a number is none of them, nor a second point. -/
theorem noDigit_exponent {exponent rest : List Char} (h : Exponent exponent)
    (hrest : Delimited rest) :
    NoDigit (exponent ++ rest) ∧ (exponent ++ rest).head? ≠ some '.' := by
  cases h with
  | none => exact ⟨noDigit_of_delimited hrest, head?_ne_point_of_delimited hrest⟩
  | digits hc =>
      constructor
      · intro d hd
        obtain rfl := Option.some.inj hd
        rcases hc with rfl | rfl <;> decide
      · intro hd
        obtain rfl := Option.some.inj hd
        rcases hc with hc | hc <;> cases hc

theorem noDigit_fraction {fraction rest : List Char} (h : Fraction fraction)
    (hrest : NoDigit rest) : NoDigit (fraction ++ rest) := by
  cases h with
  | none => exact hrest
  | digits =>
      intro d hd
      obtain rfl := Option.some.inj hd
      decide

theorem exists_read_append (atEnd : Cause) (negative : Bool) {text rest : List Char}
    (h : Unsigned text) (hrest : Delimited rest) :
    ∃ n, read atEnd negative (text ++ rest) = .ok (n, rest) := by
  obtain @⟨whole, fraction, exponent, hwhole, hfraction, hexponent⟩ := h
  obtain ⟨hnone, hpoint⟩ := noDigit_exponent hexponent hrest
  obtain ⟨e, he⟩ := exists_exponentPart_append atEnd hexponent (noDigit_of_delimited hrest)
    (ne_letter_of_delimited hrest)
  refine ⟨⟨negative, whole.map digitValue, fraction.tail.map digitValue, e⟩, ?_⟩
  simp only [read, List.append_assoc, wholePart_append atEnd hwhole
    (noDigit_fraction hfraction hnone), fractionPart_append atEnd hfraction hnone hpoint, he]

theorem unsigned_head {text : List Char} (h : Unsigned text) :
    ∃ c rest, text = c :: rest ∧ c.isDigit = true := by
  obtain ⟨hwhole, -, -⟩ := h
  cases hwhole with
  | zero => exact ⟨'0', _, rfl, rfl⟩
  | digits hc => exact ⟨_, _, rfl, hc⟩

end Numeral

/-- A number of any form. -/
inductive NumberText : List Char → Prop
  | positive {text : List Char} (h : Numeral.Unsigned text) : NumberText text
  | negative {text : List Char} (h : Numeral.Unsigned text) : NumberText ('-' :: text)

theorem numberText_head {text : List Char} (h : NumberText text) :
    ∃ c rest, text = c :: rest ∧ (c = '-' ∨ c.isDigit = true) := by
  cases h with
  | positive h =>
      obtain ⟨c, rest, htext, hc⟩ := Numeral.unsigned_head h
      exact ⟨c, rest, htext, .inr hc⟩
  | negative h => exact ⟨'-', _, rfl, .inl rfl⟩

theorem skipNumber_unsigned {text rest : List Char} (h : Numeral.Unsigned text)
    (hrest : Delimited rest) : skipNumber (text ++ rest) = .ok rest := by
  obtain ⟨n, hread⟩ := Numeral.exists_read_append .malformedNumber false h hrest
  rw [skipNumber, hread]

end DartTriggers.Json
