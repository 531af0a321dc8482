import DartTriggers.Proofs.Json.Grammar
/-!
Passing over values. Whatever brackets a value stands inside, exactly its own text is passed over;
the brackets that it opens are closed again on the way. Only the form of the text counts.
-/

namespace DartTriggers.Json

section

variable (inside : List Bracket) {c : Char} {s rest rest' rest'' : List Char}

theorem skipFrom_scalar (hs : skipSpace s = c :: rest) (hlist : c ≠ '[') (hobject : c ≠ '\x7b')
    (hscalar : skipScalar (c :: rest) = .ok rest') :
    skipFrom inside s = skipAfter inside rest' := by
  rw [skipFrom]
  split <;> simp_all
  split <;> simp_all

theorem skipFrom_emptyList (hs : skipSpace s = '[' :: rest)
    (hrest : skipSpace rest = ']' :: rest') : skipFrom inside s = skipAfter inside rest' := by
  rw [skipFrom]
  split <;> simp_all
  split <;> simp_all
  rename_i heq
  exact fun hne => absurd heq.1.symm hne

theorem skipFrom_list (hs : skipSpace s = '[' :: rest) (hrest : skipSpace rest = c :: rest')
    (hc : c ≠ ']') : skipFrom inside s = skipFrom (.list :: inside) rest := by
  rw [skipFrom]
  split <;> simp_all
  split <;> simp_all

theorem skipFrom_emptyObject (hs : skipSpace s = '\x7b' :: rest)
    (hrest : skipSpace rest = '\x7d' :: rest') : skipFrom inside s = skipAfter inside rest' := by
  rw [skipFrom]
  split <;> simp_all
  split <;> simp_all
  rename_i heq
  exact fun hne => absurd heq.1.symm hne

theorem skipFrom_object (hs : skipSpace s = '\x7b' :: rest) (hrest : skipSpace rest = c :: rest')
    (hc : c ≠ '\x7d') : skipFrom inside s = skipKey (.object :: inside) rest := by
  rw [skipFrom]
  split <;> simp_all
  split <;> simp_all

theorem skipAfter_close (bracket : Bracket) (hs : skipSpace s = bracket.close :: rest) :
    skipAfter (bracket :: inside) s = skipAfter inside rest := by
  rw [skipAfter]
  have hcomma : bracket.close ≠ ',' := by cases bracket <;> decide
  split <;> simp_all

theorem skipAfter_item (hs : skipSpace s = ',' :: rest) :
    skipAfter (.list :: inside) s = skipFrom (.list :: inside) rest := by
  rw [skipAfter]
  split <;> simp_all

theorem skipAfter_member (hs : skipSpace s = ',' :: rest) :
    skipAfter (.object :: inside) s = skipKey (.object :: inside) rest := by
  rw [skipAfter]
  split <;> simp_all

theorem skipKey_of_string (hs : skipSpace s = '"' :: rest) (hstring : skipString rest = .ok rest')
    (hcolon : colon rest' = .ok rest'') : skipKey inside s = skipFrom inside rest'' := by
  rw [skipKey]
  split <;> simp_all
  split <;> simp_all
  split <;> simp_all

end

/-- What passing over a part of a document leaves, whatever brackets it stands inside. -/
def Form.Passed : Form → List Char → Prop
  | .value, text => ∀ inside b rest, Blank b → Delimited rest →
      skipFrom inside (b ++ text ++ rest) = skipAfter inside rest
  | .items, tail => ∀ inside rest,
      skipAfter (.list :: inside) (tail ++ rest) = skipAfter inside rest
  | .members, tail => ∀ inside rest,
      skipAfter (.object :: inside) (tail ++ rest) = skipAfter inside rest

theorem passed_of_skipScalar {text : List Char} {c : Char} (hspace : isSpace c = false)
    (hlist : c ≠ '[') (hobject : c ≠ '\x7b')
    (h : ∀ rest, Delimited rest → skipScalar (c :: text ++ rest) = .ok rest) :
    Form.Passed .value (c :: text) := by
  intro inside b rest hb hrest
  rw [List.append_assoc]
  exact skipFrom_scalar inside (skipSpace_blank hb hspace (text ++ rest)) hlist hobject
    (h rest hrest)

theorem skipScalar_of_isDigit {c : Char} (hdigit : Numeral.isDigit c = true) (rest : List Char) :
    skipScalar (c :: rest) = skipNumber (c :: rest) := by
  rw [skipScalar, if_neg (ne_of_isDigit hdigit (d := '"') (by decide)),
    if_neg (ne_of_isDigit hdigit (d := 'n') (by decide)),
    if_neg (ne_of_isDigit hdigit (d := 't') (by decide)),
    if_neg (ne_of_isDigit hdigit (d := 'f') (by decide)),
    if_neg (ne_of_isDigit hdigit (d := '-') (by decide)), if_pos hdigit]

theorem passed_number {text : List Char} (h : NumberText text) : Form.Passed .value text := by
  cases h with
  | positive h =>
      obtain ⟨c, text, rfl, hc⟩ := Numeral.unsigned_head h
      have hdigit : Numeral.isDigit c = true := (Numeral.isDigit_eq c).trans hc
      refine passed_of_skipScalar (startsValue_of_isDigit hc).1
        (ne_of_isDigit hdigit (by decide)) (ne_of_isDigit hdigit (by decide)) ?_
      intro rest hrest
      rw [List.cons_append, skipScalar_of_isDigit hdigit]
      exact skipNumber_unsigned h hrest
  | negative h =>
      exact passed_of_skipScalar (by decide) (by decide) (by decide) fun rest hrest =>
        skipNumber_unsigned h hrest

theorem skipKey_member {b name b₁ b₂ text tail rest : List Char} (hb : Blank b)
    (hname : StringText name) (hb₁ : Blank b₁) (hb₂ : Blank b₂)
    (htext : Form.Passed .value text) (htail : Form.Passed .members tail)
    (hrest : Delimited (tail ++ rest)) (inside : List Bracket) :
    skipKey (.object :: inside)
        (b ++ '"' :: (name ++ '"' :: (b₁ ++ ':' :: (b₂ ++ text ++ (tail ++ rest))))) =
      skipAfter inside rest := by
  rw [skipKey_of_string (.object :: inside) (skipSpace_blank hb (by decide) _)
    (skipString_stringText hname _) (colon_blank hb₁ _),
    htext (.object :: inside) b₂ (tail ++ rest) hb₂ hrest]
  exact htail inside rest

/-- The induction is on the form of the part, one case for each token that can come next. -/
theorem passed_of_formed {form : Form} {text : List Char} (h : Formed form text) :
    form.Passed text := by
  induction h with
  | null => exact passed_of_skipScalar (by decide) (by decide) (by decide) fun rest _ => rfl
  | bool b =>
      cases b <;>
        exact passed_of_skipScalar (by decide) (by decide) (by decide) fun rest _ => rfl
  | number h => exact passed_number h
  | string hbody =>
      refine passed_of_skipScalar (by decide) (by decide) (by decide) fun rest _ => ?_
      have hstring := skipString_stringText hbody rest
      simpa [skipScalar] using hstring
  | @emptyList b' hb' =>
      intro inside b rest hb _
      have hskip := skipFrom_emptyList inside
        (skipSpace_blank hb (by decide) (b' ++ ']' :: rest)) (skipSpace_blank hb' (by decide) rest)
      simpa using hskip
  | @list b' text tail hb' htext htail ih ih' =>
      intro inside b rest hb _
      obtain ⟨c, text, rfl, hc⟩ := formed_head htext
      have hskip := skipFrom_list inside
        (skipSpace_blank hb (by decide) (b' ++ c :: (text ++ (tail ++ rest))))
        (skipSpace_blank hb' hc.1 (text ++ (tail ++ rest))) hc.2
      have hvalue := ih (.list :: inside) b' (tail ++ rest) hb'
        (delimited_of_formed htail (by simp) rest)
      have hitems := ih' inside rest
      simp only [List.append_assoc, List.cons_append] at hskip hvalue ⊢
      rw [hskip, hvalue, hitems]
  | @emptyObject b' hb' =>
      intro inside b rest hb _
      have hskip := skipFrom_emptyObject inside
        (skipSpace_blank hb (by decide) (b' ++ '\x7d' :: rest))
        (skipSpace_blank hb' (by decide) rest)
      simpa using hskip
  | @object b' name b₁ b₂ text tail hb' hname hb₁ hb₂ htext htail ih ih' =>
      intro inside b rest hb _
      have hskip := skipFrom_object inside
        (skipSpace_blank hb (by decide)
          (b' ++ '"' :: (name ++ '"' :: (b₁ ++ ':' :: (b₂ ++ text ++ (tail ++ rest))))))
        (skipSpace_blank hb' (by decide) _) (by decide)
      rw [skipKey_member hb' hname hb₁ hb₂ ih ih' (delimited_of_formed htail (by simp) rest)]
        at hskip
      simpa using hskip
  | listEnd hb =>
      intro inside rest
      rw [List.append_assoc]
      exact skipAfter_close inside .list (skipSpace_blank hb (by decide) rest)
  | @item b b₁ text tail hb hb₁ htext htail ih ih' =>
      intro inside rest
      have hskip := skipAfter_item inside
        (skipSpace_blank hb (by decide) (b₁ ++ text ++ (tail ++ rest)))
      have hvalue := ih (.list :: inside) b₁ (tail ++ rest) hb₁
        (delimited_of_formed htail (by simp) rest)
      have hitems := ih' inside rest
      rw [hvalue, hitems] at hskip
      simpa using hskip
  | objectEnd hb =>
      intro inside rest
      rw [List.append_assoc]
      exact skipAfter_close inside .object (skipSpace_blank hb (by decide) rest)
  | @member b b₁ name b₂ b₃ text tail hb hb₁ hname hb₂ hb₃ htext htail ih ih' =>
      intro inside rest
      have hskip := skipAfter_member inside
        (skipSpace_blank hb (by decide)
          (b₁ ++ '"' :: (name ++ '"' :: (b₂ ++ ':' :: (b₃ ++ text ++ (tail ++ rest))))))
      rw [skipKey_member hb₁ hname hb₂ hb₃ ih ih' (delimited_of_formed htail (by simp) rest)]
        at hskip
      simpa using hskip

/-- A value is passed over, whatever stands after it. -/
theorem skipValue_formed {b text rest : List Char} (hb : Blank b) (h : Formed .value text)
    (hrest : Delimited rest) : skipValue (b ++ text ++ rest) = .ok rest := by
  rw [skipValue, passed_of_formed h [] b rest hb hrest, skipAfter]

end DartTriggers.Json
