import Mathlib.Tactic.SplitIfs
import DartTriggers.Dart.Token
/-!
Which defaults are put between quotes. Whether a default is text is decided by the declared type
alone, and its Dart type by the variant as well; the two agree on what a `String` is.
-/

namespace DartTriggers

namespace AttributeType

theorem isText_eq (t : AttributeType) (v : Variant) : t.isText = (t.token v == "String") := by
  cases t with
  | other expression => rfl
  | _ => cases v <;> decide

theorem isText_iff (t : AttributeType) (v : Variant) : t.isText = true ↔ t.token v = "String" := by
  rw [isText_eq t v, beq_iff_eq]

/-- The tag of a truth value is its Dart type, so that only a floating-point number has a type of
its own that depends on the variant. -/
theorem token_basic_ne_iff (t : AttributeType) : t.token .basic ≠ t.token .extended ↔ t = .float := by
  cases t with
  | other expression =>
      have hsame : (other expression).token .basic = (other expression).token .extended := rfl
      simp [hsame]
  | _ => decide

end AttributeType

namespace Dart

/-- No text is the beginning of itself in quotes, the end being marked: the quotes in front of it
would go on to the mark. -/
theorem append_semicolon_ne_quoted (value r r' : List Char) :
    value ++ ';' :: r ≠ '\'' :: (value ++ '\'' :: r') := by
  induction value with
  | nil => simp
  | cons c value ih =>
      intro h
      obtain ⟨rfl, htail⟩ := List.cons.inj h
      exact ih htail

theorem plainLiteral_ne_quoted (value : String) (r r' : List Char) :
    (plainLiteral value).toList ++ ';' :: r ≠ ("'" ++ value ++ "'").toList ++ ';' :: r' := by
  have hquoted : ("'" ++ value ++ "'").toList ++ ';' :: r' =
      '\'' :: (value.toList ++ '\'' :: ';' :: r') := by
    simp
  rw [hquoted]
  unfold plainLiteral
  split_ifs
  · simp
  · simp
  · exact append_semicolon_ne_quoted value.toList r _

theorem plainLiteral_ne_between (value : String) : plainLiteral value ≠ "'" ++ value ++ "'" := by
  intro h
  exact plainLiteral_ne_quoted value [] [] (by rw [h])

end Dart

namespace Attribute

theorem literal_some (name : String) (type : AttributeType) (value : String) :
    (⟨name, type, some value⟩ : Attribute).literal =
      if type.isText then "'" ++ value ++ "'" else Dart.plainLiteral value := rfl

theorem literal_eq_between_iff {a : Attribute} {value : String} (h : a.default = some value) :
    a.literal = "'" ++ value ++ "'" ↔ a.type.isText = true := by
  obtain ⟨name, type, default⟩ := a
  obtain rfl : default = some value := h
  rw [literal_some]
  cases htext : type.isText with
  | true => exact iff_of_true (if_pos rfl) rfl
  | false => exact iff_of_false (Dart.plainLiteral_ne_between value) Bool.false_ne_true

theorem literal_of_not_isText {a : Attribute} {value : String} (h : a.default = some value)
    (htext : ¬ a.type.isText = true) : a.literal = Dart.plainLiteral value := by
  obtain ⟨name, type, default⟩ := a
  obtain rfl : default = some value := h
  rw [literal_some, if_neg htext]

end Attribute

namespace Dart.Property

/-- An attribute is quoted if and only if its Dart type is `String`, in either variant. -/
theorem literal_agrees_type (v : Variant) (a : Attribute) :
    ((ofAttribute v a).type = "String" ↔ a.type.isText = true) ∧
    (∀ value, a.default = some value →
      ((ofAttribute v a).literal = "'" ++ value ++ "'" ↔ (ofAttribute v a).type = "String") ∧
      ((ofAttribute v a).type ≠ "String" → (ofAttribute v a).literal =
        if value = "True" then "true" else if value = "False" then "false" else value)) ∧
    (ofAttribute .basic a).literal = (ofAttribute .extended a).literal ∧
    ((ofAttribute .basic a).type ≠ (ofAttribute .extended a).type ↔ a.type = .float) := by
  have htype : (ofAttribute v a).type = "String" ↔ a.type.isText = true :=
    (a.type.isText_iff v).symm
  refine ⟨htype, ?_, rfl, a.type.token_basic_ne_iff⟩
  intro value hvalue
  constructor
  · rw [htype]
    exact Attribute.literal_eq_between_iff hvalue
  · intro hother
    exact Attribute.literal_of_not_isText hvalue (mt htype.mpr hother)

theorem literal_agrees_type_true :
    (ofAttribute .basic ⟨"a", .other "String", some "True"⟩).literal = "'True'" ∧
      (ofAttribute .basic ⟨"a", .other "String?", some "True"⟩).literal = "true" := by
  obtain ⟨-, hquoted, -⟩ := literal_agrees_type .basic ⟨"a", .other "String", some "True"⟩
  obtain ⟨-, hplain, -⟩ := literal_agrees_type .basic ⟨"a", .other "String?", some "True"⟩
  constructor
  · exact (hquoted "True" rfl).1.mpr rfl
  · exact (hplain "True" rfl).2 (by decide)

end Dart.Property

end DartTriggers
