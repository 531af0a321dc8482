import Mathlib.Tactic.IntervalCases
import DartTriggers.Json.Decoder
/-!
The ways to write a string: a character may stand for itself, follow a backslash, or be given by
its number, in two halves if it lies beyond the first plane. Whatever the way, the string is read
back, and passed over where nobody asks for it.
-/

namespace DartTriggers.Json

/-- The number that four digits in base sixteen stand for. -/
def hexNumber (a b c d : Char) : Option Nat :=
  match hexValue a, hexValue b, hexValue c, hexValue d with
  | some a, some b, some c, some d => some (((a * 16 + b) * 16 + c) * 16 + d)
  | _, _, _, _ => none

/-- The ways to write a character inside a string. -/
inductive SpelledChar : Char → List Char → Prop
  | plain {x : Char} (hquote : x ≠ '"') (hslash : x ≠ '\\') (hcontrol : 32 ≤ x.toNat) :
      SpelledChar x [x]
  | short {x letter : Char} (h : shortEscape letter = some x) : SpelledChar x ['\\', letter]
  | number {a b c d : Char} {n : Nat} (h : hexNumber a b c d = some n)
      (hn : n < 0xD800 ∨ 0xDFFF < n) : SpelledChar (Char.ofNat n) ['\\', 'u', a, b, c, d]
  | halves {a b c d a' b' c' d' : Char} {lead trail : Nat} (h : hexNumber a b c d = some lead)
      (hlead : 0xD800 ≤ lead ∧ lead ≤ 0xDBFF) (h' : hexNumber a' b' c' d' = some trail)
      (htrail : 0xDC00 ≤ trail ∧ trail ≤ 0xDFFF) :
      SpelledChar (Char.ofNat ((lead - 0xD800) * 0x400 + (trail - 0xDC00) + 0x10000))
        ['\\', 'u', a, b, c, d, '\\', 'u', a', b', c', d']

/-- The ways to write some characters, one after the other. -/
inductive Spelled : List Char → List Char → Prop
  | nil : Spelled [] []
  | cons {x : Char} {xs text texts : List Char} (hx : SpelledChar x text) (hxs : Spelled xs texts) :
      Spelled (x :: xs) (text ++ texts)

theorem hexUnit_of_hexNumber {a b c d : Char} {n : Nat} (h : hexNumber a b c d = some n)
    (s : List Char) : hexUnit (a :: b :: c :: d :: s) = .ok (n, s) := by
  unfold hexNumber at h
  unfold hexUnit
  split at h
  · rename_i ha hb hc hd
    simp only [ha, hb, hc, hd, Option.some.inj h]
  · cases h

theorem ne_u_of_shortEscape {letter x : Char} (h : shortEscape letter = some x) :
    letter ≠ 'u' := by
  have hnone : shortEscape 'u' = none := by decide
  rintro rfl
  rw [hnone] at h
  cases h

theorem stringBody_escape {s rest : List Char} {c : Char} (h : escape s = .ok (c, rest)) :
    stringBody ('\\' :: s) = (stringBody rest).map fun p => (c :: p.1, p.2) := by
  rw [stringBody, if_neg (by decide), if_pos rfl]
  split
  · simp_all
  · rename_i x rest' h'
    rw [h] at h'
    cases h'
    cases stringBody rest <;> rfl

theorem stringBody_plain {c : Char} (hquote : c ≠ '"') (hslash : c ≠ '\\')
    (hc : 32 ≤ c.toNat) (s : List Char) :
    stringBody (c :: s) = (stringBody s).map fun p => (c :: p.1, p.2) := by
  rw [stringBody, if_neg hquote, if_neg hslash, if_neg (by omega)]
  cases stringBody s <;> rfl

theorem stringBody_spelledChar {x : Char} {text : List Char} (h : SpelledChar x text)
    (s : List Char) :
    stringBody (text ++ s) = (stringBody s).map fun p => (x :: p.1, p.2) := by
  cases h with
  | plain hquote hslash hcontrol => exact stringBody_plain hquote hslash hcontrol s
  | @short _ letter h =>
      have hescape : escape (letter :: s) = .ok (x, s) := by
        simp [escape, ne_u_of_shortEscape h, h]
      exact stringBody_escape hescape
  | @number a b c d n h hn =>
      refine stringBody_escape ?_
      have htrail : isTrailingSurrogate n = false := by
        simp only [isTrailingSurrogate, Bool.and_eq_false_iff, decide_eq_false_iff_not]
        omega
      have hlead : isLeadingSurrogate n = false := by
        simp only [isLeadingSurrogate, Bool.and_eq_false_iff, decide_eq_false_iff_not]
        omega
      simp [escape, numberedChar, hexUnit_of_hexNumber h, htrail, hlead]
  | @halves a b c d a' b' c' d' lead trail h hlead h' htrail =>
      refine stringBody_escape ?_
      have hnot : isTrailingSurrogate lead = false := by
        simp only [isTrailingSurrogate, Bool.and_eq_false_iff, decide_eq_false_iff_not]
        omega
      have hfirst : isLeadingSurrogate lead = true := by
        simp [isLeadingSurrogate, hlead]
      have hsecond : isTrailingSurrogate trail = true := by
        simp [isTrailingSurrogate, htrail]
      simp [escape, numberedChar, pairedUnit, hexUnit_of_hexNumber h, hexUnit_of_hexNumber h', hnot,
        hfirst, hsecond]

/-- A string is read back from between its quotes, in whatever way it is written. -/
theorem stringBody_spelled {xs text : List Char} (h : Spelled xs text) (rest : List Char) :
    stringBody (text ++ '"' :: rest) = .ok (xs, rest) := by
  induction h with
  | nil => rw [List.nil_append, stringBody, if_pos rfl]
  | cons hx _ ih =>
      rw [List.append_assoc, stringBody_spelledChar hx, ih]
      rfl

theorem skipString_escape {s rest : List Char} (h : skipEscape s = .ok rest) :
    skipString ('\\' :: s) = skipString rest := by
  rw [skipString, if_neg (by decide), if_pos rfl]
  split
  · simp_all
  · rename_i rest' h'
    rw [h] at h'
    rw [Except.ok.inj h']

theorem skipEscape_of_hexNumber {a b c d : Char} {n : Nat} (h : hexNumber a b c d = some n)
    (s : List Char) : skipEscape ('u' :: a :: b :: c :: d :: s) = .ok s := by
  simp [skipEscape, hexUnit_of_hexNumber h]

/-- A piece of a string in its form alone: a half of a character may stand by itself. -/
inductive StringPart : List Char → Prop
  | plain {x : Char} (hquote : x ≠ '"') (hslash : x ≠ '\\') (hcontrol : 32 ≤ x.toNat) :
      StringPart [x]
  | short {x letter : Char} (h : shortEscape letter = some x) : StringPart ['\\', letter]
  | unit {a b c d : Char} {n : Nat} (h : hexNumber a b c d = some n) :
      StringPart ['\\', 'u', a, b, c, d]

/-- What may stand between quotes where nobody asks which characters are meant. -/
inductive StringText : List Char → Prop
  | nil : StringText []
  | cons {part text : List Char} (hpart : StringPart part) (htext : StringText text) :
      StringText (part ++ text)

theorem stringText_spelledChar {x : Char} {part text : List Char} (h : SpelledChar x part)
    (htext : StringText text) : StringText (part ++ text) := by
  cases h with
  | plain hquote hslash hcontrol => exact .cons (.plain hquote hslash hcontrol) htext
  | short h => exact .cons (.short h) htext
  | number h hn => exact .cons (.unit h) htext
  | halves h hlead h' htrail =>
      have hunits := StringText.cons (.unit h) (StringText.cons (.unit h') htext)
      exact hunits

theorem stringText_of_spelled {xs text : List Char} (h : Spelled xs text) : StringText text := by
  induction h with
  | nil => exact .nil
  | cons hx _ ih => exact stringText_spelledChar hx ih

theorem skipString_stringPart {part : List Char} (h : StringPart part) (s : List Char) :
    skipString (part ++ s) = skipString s := by
  cases h with
  | plain hquote hslash hcontrol =>
      rw [List.singleton_append, skipString, if_neg hquote, if_neg hslash, if_neg (by omega)]
  | short h =>
      refine skipString_escape ?_
      simp [skipEscape, ne_u_of_shortEscape h, h]
  | unit h => exact skipString_escape (skipEscape_of_hexNumber h s)

/-- A string is passed over up to its closing quote, in whatever way it is written. -/
theorem skipString_stringText {text : List Char} (h : StringText text) (rest : List Char) :
    skipString (text ++ '"' :: rest) = .ok rest := by
  induction h with
  | nil => rw [List.nil_append, skipString, if_pos rfl]
  | cons hpart _ ih => rw [List.append_assoc, skipString_stringPart hpart, ih]

theorem spelledChar_control {n : Nat} (hn : n < 32) :
    SpelledChar (Char.ofNat n) (stringChar (Char.ofNat n)) := by
  interval_cases n <;>
    first
    | exact .short (by decide)
    | exact .number (n := _) (by decide) (by decide)

/-- What is written for a character is one of the ways to write it. -/
theorem spelledChar_stringChar (x : Char) : SpelledChar x (stringChar x) := by
  by_cases hquote : x = '"'
  · subst hquote
    exact .short (by decide)
  by_cases hslash : x = '\\'
  · subst hslash
    exact .short (by decide)
  by_cases hcontrol : x.toNat < 32
  · have hspelled := spelledChar_control hcontrol
    rwa [Char.ofNat_toNat] at hspelled
  · have hne : ∀ y : Char, y.toNat < 32 → x ≠ y := by
      rintro y hy rfl
      exact hcontrol hy
    have hplain : stringChar x = [x] := by
      have hlow : ¬ x.toNat < 16 := by omega
      simp [stringChar, hquote, hslash, hne '\n' (by decide), hne '\r' (by decide),
        hne '\t' (by decide), hne '\x08' (by decide), hne '\x0c' (by decide), hlow, hcontrol]
    rw [hplain]
    exact .plain hquote hslash (by omega)

theorem spelled_flatMap (xs : List Char) : Spelled xs (xs.flatMap stringChar) := by
  induction xs with
  | nil => exact .nil
  | cons x xs ih => exact .cons (spelledChar_stringChar x) ih

end DartTriggers.Json
