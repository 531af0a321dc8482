import DartTriggers.Proofs.Json.Integers
/-!
Documents in their form alone. Where nobody asks for a value, numbers may be of any size, brackets may
stand inside each other to any depth, and strings need not spell characters.
-/

namespace DartTriggers.Json

/-- What a part of a document is, apart from its values. -/
inductive Form where
  | value
  /-- What follows an item of a list, up to the closing bracket. -/
  | items
  /-- What follows a member of an object, up to the closing brace. -/
  | members

/-- The texts of a form: all that documents may be made of. -/
inductive Formed : Form → List Char → Prop
  | null : Formed .value ['n', 'u', 'l', 'l']
  | bool (b : Bool) : Formed .value (boolChars b)
  | number {text : List Char} (h : NumberText text) : Formed .value text
  | string {body : List Char} (hbody : StringText body) : Formed .value ('"' :: body ++ ['"'])
  | emptyList {b : List Char} (hb : Blank b) : Formed .value ('[' :: b ++ [']'])
  | list {b text tail : List Char} (hb : Blank b) (htext : Formed .value text)
      (htail : Formed .items tail) : Formed .value ('[' :: b ++ text ++ tail)
  | emptyObject {b : List Char} (hb : Blank b) : Formed .value ('\x7b' :: b ++ ['\x7d'])
  | object {b name b₁ b₂ text tail : List Char} (hb : Blank b) (hname : StringText name)
      (hb₁ : Blank b₁) (hb₂ : Blank b₂) (htext : Formed .value text)
      (htail : Formed .members tail) :
      Formed .value ('\x7b' :: b ++ '"' :: name ++ '"' :: b₁ ++ ':' :: b₂ ++ text ++ tail)
  | listEnd {b : List Char} (hb : Blank b) : Formed .items (b ++ [']'])
  | item {b b₁ text tail : List Char} (hb : Blank b) (hb₁ : Blank b₁)
      (htext : Formed .value text) (htail : Formed .items tail) :
      Formed .items (b ++ ',' :: b₁ ++ text ++ tail)
  | objectEnd {b : List Char} (hb : Blank b) : Formed .members (b ++ ['\x7d'])
  | member {b b₁ name b₂ b₃ text tail : List Char} (hb : Blank b) (hb₁ : Blank b₁)
      (hname : StringText name) (hb₂ : Blank b₂) (hb₃ : Blank b₃) (htext : Formed .value text)
      (htail : Formed .members tail) :
      Formed .members
        (b ++ ',' :: b₁ ++ '"' :: name ++ '"' :: b₂ ++ ':' :: b₃ ++ text ++ tail)

theorem formed_head {text : List Char} (h : Formed .value text) :
    ∃ c rest, text = c :: rest ∧ StartsValue c := by
  cases h with
  | bool b => cases b <;> exact ⟨_, _, rfl, by decide, by decide⟩
  | number h =>
      obtain ⟨c, rest, htext, rfl | hc⟩ := numberText_head h
      · exact ⟨'-', rest, htext, by decide, by decide⟩
      · exact ⟨c, rest, htext, startsValue_of_isDigit hc⟩
  | _ => exact ⟨_, _, rfl, by decide, by decide⟩

theorem delimited_of_formed {form : Form} {tail : List Char} (h : Formed form tail)
    (hform : form ≠ .value) (rest : List Char) : Delimited (tail ++ rest) := by
  cases h with
  | listEnd hb | objectEnd hb =>
      rw [List.append_assoc]
      exact delimited_blank_append hb (delimited_cons _ (by simp))
  | item hb | member hb =>
      simp only [List.append_assoc]
      exact delimited_blank_append hb (delimited_cons _ (by simp))
  | _ => exact absurd rfl hform

def Phrase.form : Phrase → Form
  | .value _ => .value
  | .items _ => .items
  | .members _ => .members

/-- The values that fit are written in a form that documents may have. -/
theorem formed_of_written {p : Phrase} {text : List Char} (h : Written p text) :
    ∀ {levels : Nat}, p.Fits levels → Formed p.form text := by
  induction h with
  | null => exact fun _ => .null
  | bool b => exact fun _ => .bool b
  | number n =>
      intro _ hfits
      cases hfits with
      | @integer _ n _ => exact .number (numberText_integer n)
  | string hs => exact fun _ => .string (stringText_of_spelled hs)
  | emptyList hb => exact fun _ => .emptyList hb
  | list hb _ _ ih ih' =>
      intro levels hfits
      cases hfits with
      | array hfits =>
          rw [List.forall_mem_cons] at hfits
          exact .list hb (ih hfits.1) (ih' hfits.2)
  | emptyObject hb => exact fun _ => .emptyObject hb
  | object hb hkey hb₁ hb₂ _ _ ih ih' =>
      intro levels hfits
      cases hfits with
      | object hfits =>
          rw [List.forall_mem_cons] at hfits
          exact .object hb (stringText_of_spelled hkey) hb₁ hb₂ (ih hfits.1) (ih' hfits.2)
  | listEnd hb => exact fun _ => .listEnd hb
  | item hb hb₁ _ _ ih ih' =>
      intro levels hfits
      obtain ⟨hfirst, hothers⟩ := List.forall_mem_cons.mp hfits
      exact .item hb hb₁ (ih hfirst) (ih' hothers)
  | objectEnd hb => exact fun _ => .objectEnd hb
  | member hb hb₁ hkey hb₂ hb₃ _ _ ih ih' =>
      intro levels hfits
      obtain ⟨hfirst, hothers⟩ := List.forall_mem_cons.mp hfits
      exact .member hb hb₁ (stringText_of_spelled hkey) hb₂ hb₃ (ih hfirst) (ih' hothers)

end DartTriggers.Json
