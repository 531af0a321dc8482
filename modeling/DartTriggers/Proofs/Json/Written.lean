import Mathlib.Data.List.Basic
import Mathlib.Tactic.ByContra
import DartTriggers.Json.Decoder
import DartTriggers.Proofs.Json.Spelling
/-!
Documents as texts: a value may be written with any blanks between its tokens, and with its strings
in any spelling. The compact and the pretty layout are two ways among these.
-/

namespace DartTriggers.Json

def Blank (s : List Char) : Prop :=
  ∀ c ∈ s, isSpace c = true

theorem blank_nil : Blank [] := by
  simp [Blank]

theorem blank_cons {c : Char} {s : List Char} (hc : isSpace c = true) (hs : Blank s) :
    Blank (c :: s) := by
  intro d hd
  rcases List.mem_cons.mp hd with rfl | hd
  · exact hc
  · exact hs d hd

theorem skipSpace_blank {b : List Char} (hb : Blank b) {c : Char} (hc : isSpace c = false)
    (rest : List Char) : skipSpace (b ++ c :: rest) = c :: rest := by
  induction b with
  | nil => simp [skipSpace, hc]
  | cons d b ih =>
      have hd : isSpace d = true := hb d (by simp)
      have hrest : Blank b := fun e he => hb e (List.mem_cons_of_mem d he)
      rw [List.cons_append, skipSpace, List.dropWhile_cons_of_pos hd]
      exact ih hrest

theorem colon_blank {b : List Char} (hb : Blank b) (rest : List Char) :
    colon (b ++ ':' :: rest) = .ok rest := by
  rw [colon, skipSpace_blank hb (by decide)]
  rfl

/-- What may stand after a value: the end, a blank, a comma or a closing character. None of these
goes on with a number. -/
def Delimited (rest : List Char) : Prop :=
  ∀ c ∈ rest.head?, isSpace c = true ∨ c = ',' ∨ c = ']' ∨ c = '\x7d'

theorem delimited_nil : Delimited [] := by
  simp [Delimited]

theorem delimited_blank_append {b rest : List Char} (hb : Blank b) (h : Delimited rest) :
    Delimited (b ++ rest) := by
  cases b with
  | nil => exact h
  | cons c b =>
      intro d hd
      have hdc : c = d := by simpa using hd
      exact .inl (hdc ▸ hb c (by simp))

theorem delimited_cons {c : Char} (rest : List Char) (hc : c = ',' ∨ c = ']' ∨ c = '\x7d') :
    Delimited (c :: rest) := by
  intro d hd
  have hdc : c = d := by simpa using hd
  exact .inr (hdc ▸ hc)

/-- A part of a document. -/
inductive Phrase where
  | value (v : Json)
  /-- What follows an item of a list, up to the closing bracket: these items. -/
  | items (vs : List Json)
  /-- What follows a member of an object, up to the closing brace: these members. -/
  | members (ms : List (String × Json))

/-- The texts of a part of a document, with any blanks between its tokens and any spelling of its
strings. -/
inductive Written : Phrase → List Char → Prop
  | null : Written (.value .null) ['n', 'u', 'l', 'l']
  | bool (b : Bool) : Written (.value (.bool b)) (boolChars b)
  | number (n : JsonNumber) : Written (.value (.number n)) n.chars
  | string {s : String} {body : List Char} (hs : Spelled s.toList body) :
      Written (.value (.string s)) ('"' :: body ++ ['"'])
  | emptyList {b : List Char} (hb : Blank b) : Written (.value (.array [])) ('[' :: b ++ [']'])
  | list {v : Json} {vs : List Json} {b text tail : List Char} (hb : Blank b)
      (hv : Written (.value v) text) (hvs : Written (.items vs) tail) :
      Written (.value (.array (v :: vs))) ('[' :: b ++ text ++ tail)
  | emptyObject {b : List Char} (hb : Blank b) :
      Written (.value (.object [])) ('\x7b' :: b ++ ['\x7d'])
  | object {key : String} {v : Json} {ms : List (String × Json)}
      {b name b₁ b₂ text tail : List Char} (hb : Blank b) (hkey : Spelled key.toList name)
      (hb₁ : Blank b₁) (hb₂ : Blank b₂) (hv : Written (.value v) text)
      (hms : Written (.members ms) tail) :
      Written (.value (.object ((key, v) :: ms)))
        ('\x7b' :: b ++ '"' :: name ++ '"' :: b₁ ++ ':' :: b₂ ++ text ++ tail)
  | listEnd {b : List Char} (hb : Blank b) : Written (.items []) (b ++ [']'])
  | item {v : Json} {vs : List Json} {b b₁ text tail : List Char} (hb : Blank b) (hb₁ : Blank b₁)
      (hv : Written (.value v) text) (hvs : Written (.items vs) tail) :
      Written (.items (v :: vs)) (b ++ ',' :: b₁ ++ text ++ tail)
  | objectEnd {b : List Char} (hb : Blank b) : Written (.members []) (b ++ ['\x7d'])
  | member {key : String} {v : Json} {ms : List (String × Json)}
      {b b₁ name b₂ b₃ text tail : List Char} (hb : Blank b) (hb₁ : Blank b₁)
      (hkey : Spelled key.toList name) (hb₂ : Blank b₂) (hb₃ : Blank b₃)
      (hv : Written (.value v) text) (hms : Written (.members ms) tail) :
      Written (.members ((key, v) :: ms))
        (b ++ ',' :: b₁ ++ '"' :: name ++ '"' :: b₂ ++ ':' :: b₃ ++ text ++ tail)

/-- Values with integers of 64 bits, signed or not, as their only numbers, and with at most so many
brackets around a part of them. -/
inductive Fits : Nat → Json → Prop
  | null (levels : Nat) : Fits levels .null
  | bool (levels : Nat) (b : Bool) : Fits levels (.bool b)
  | integer (levels : Nat) {n : Int}
      (hn : -9223372036854775808 ≤ n ∧ n ≤ 18446744073709551615) :
      Fits levels (.number (.integer n))
  | string (levels : Nat) (s : String) : Fits levels (.string s)
  | array {levels : Nat} {vs : List Json} (hvs : ∀ v ∈ vs, Fits levels v) :
      Fits (levels + 1) (.array vs)
  | object {levels : Nat} {ms : List (String × Json)} (hms : ∀ m ∈ ms, Fits levels m.2) :
      Fits (levels + 1) (.object ms)

/-- The values of a part of a document fit. -/
def Phrase.Fits (levels : Nat) : Phrase → Prop
  | .value v => Json.Fits levels v
  | .items vs => ∀ v ∈ vs, Json.Fits levels v
  | .members ms => ∀ m ∈ ms, Json.Fits levels m.2

theorem delimited_of_written {p : Phrase} {tail : List Char} (h : Written p tail)
    (hp : ∀ v, p ≠ .value v) (rest : List Char) : Delimited (tail ++ rest) := by
  cases h with
  | listEnd hb | objectEnd hb =>
      rw [List.append_assoc]
      exact delimited_blank_append hb (delimited_cons _ (by simp))
  | item hb =>
      simp only [List.append_assoc]
      exact delimited_blank_append hb (delimited_cons _ (by simp))
  | member hb =>
      simp only [List.append_assoc]
      exact delimited_blank_append hb (delimited_cons _ (by simp))
  | _ => exact absurd rfl (hp _)

def StartsValue (c : Char) : Prop :=
  isSpace c = false ∧ c ≠ ']'

theorem startsValue_of_isDigit {c : Char} (hc : c.isDigit = true) : StartsValue c := by
  constructor
  · by_contra hspace
    simp only [isSpace, Bool.not_eq_false, Bool.or_eq_true, beq_iff_eq] at hspace
    rcases hspace with ((rfl | rfl) | rfl) | rfl <;> contradiction
  · rintro rfl
    contradiction

theorem layout_head (d : Decimal) : ∃ c ∈ (JsonNumber.layout d).head?, c.isDigit = true := by
  have hdigit : ∀ c ∈ Nat.toDigits 10 d.digits, c.isDigit = true := fun c hc =>
    Nat.isDigit_of_mem_toDigits (by decide) (by decide) hc
  cases hdigits : Nat.toDigits 10 d.digits with
  | nil => exact absurd hdigits Nat.toDigits_ne_nil
  | cons first digits =>
      have hfirst : first.isDigit = true := hdigit first (by simp [hdigits])
      unfold JsonNumber.layout
      simp only [hdigits]
      split
      · exact ⟨'0', by simp, by decide⟩
      · split
        · split
          · exact ⟨first, by simp, hfirst⟩
          · split
            · exact ⟨first, by simp, hfirst⟩
            · exact ⟨'0', by simp, by decide⟩
        · exact ⟨first, by simp, hfirst⟩

theorem chars_head (n : JsonNumber) : ∃ c ∈ n.chars.head?, c = '-' ∨ c.isDigit = true := by
  have hdigits : ∀ k : Nat, ∃ c ∈ (Nat.toDigits 10 k).head?, c = '-' ∨ c.isDigit = true := by
    intro k
    cases hk : Nat.toDigits 10 k with
    | nil => exact absurd hk Nat.toDigits_ne_nil
    | cons c rest =>
        have hc : c ∈ Nat.toDigits 10 k := by simp [hk]
        exact ⟨c, by simp, .inr (Nat.isDigit_of_mem_toDigits (by decide) (by decide) hc)⟩
  cases n with
  | integer value =>
      simp only [JsonNumber.chars]
      split
      · exact ⟨'-', by simp, .inl rfl⟩
      · exact hdigits _
  | binary negative magnitude =>
      cases negative with
      | true => exact ⟨'-', by simp [JsonNumber.chars], .inl rfl⟩
      | false =>
          obtain ⟨c, hc, hdigit⟩ := layout_head (Decimal.shortest magnitude)
          exact ⟨c, by simpa [JsonNumber.chars] using hc, .inr hdigit⟩

/-- The characters that a value can begin with. -/
def Begins : Json → Char → Prop
  | .null, c => c = 'n'
  | .bool true, c => c = 't'
  | .bool false, c => c = 'f'
  | .number _, c => c = '-' ∨ c.isDigit = true
  | .string _, c => c = '"'
  | .array _, c => c = '['
  | .object _, c => c = '\x7b'

theorem written_begins {v : Json} {text : List Char} (h : Written (.value v) text) :
    ∃ c rest, text = c :: rest ∧ Begins v c := by
  cases h with
  | bool b => cases b <;> exact ⟨_, _, rfl, rfl⟩
  | number n =>
      obtain ⟨c, hc, hbegins⟩ := chars_head n
      exact ⟨c, n.chars.tail, (List.cons_head?_tail hc).symm, hbegins⟩
  | _ => exact ⟨_, _, rfl, rfl⟩

theorem startsValue_of_begins {v : Json} {c : Char} (h : Begins v c) : StartsValue c := by
  cases v with
  | bool b =>
      cases b <;>
        · obtain rfl := h
          exact ⟨by decide, by decide⟩
  | number n =>
      rcases h with rfl | h
      · exact ⟨by decide, by decide⟩
      · exact startsValue_of_isDigit h
  | _ =>
      obtain rfl := h
      exact ⟨by decide, by decide⟩

theorem begins_opening {v : Json} {c : Char} (h : Begins v c) :
    (c = '"' → ∃ s, v = .string s) ∧ (c = '[' → ∃ vs, v = .array vs) ∧
      (c = '\x7b' → ∃ ms, v = .object ms) := by
  cases v with
  | bool b =>
      cases b <;>
        · obtain rfl := h
          simp
  | number n =>
      refine ⟨?_, ?_, ?_⟩ <;>
        · rintro rfl
          simp [Begins] at h
  | _ =>
      obtain rfl := h
      simp

theorem ne_quote {v : Json} {c : Char} (h : Begins v c) (hv : ∀ s, v ≠ .string s) : c ≠ '"' := by
  intro hc
  obtain ⟨s, hs⟩ := (begins_opening h).1 hc
  exact hv s hs

theorem ne_bracket {v : Json} {c : Char} (h : Begins v c) (hv : ∀ vs, v ≠ .array vs) :
    c ≠ '[' := by
  intro hc
  obtain ⟨vs, hvs⟩ := (begins_opening h).2.1 hc
  exact hv vs hvs

theorem ne_brace {v : Json} {c : Char} (h : Begins v c) (hv : ∀ ms, v ≠ .object ms) :
    c ≠ '\x7b' := by
  intro hc
  obtain ⟨ms, hms⟩ := (begins_opening h).2.2 hc
  exact hv ms hms

theorem written_head {v : Json} {text : List Char} (h : Written (.value v) text) :
    ∃ c rest, text = c :: rest ∧ StartsValue c := by
  obtain ⟨c, rest, htext, hbegins⟩ := written_begins h
  exact ⟨c, rest, htext, startsValue_of_begins hbegins⟩

theorem blank_lineAt (depth : Nat) : Blank (lineAt depth) := by
  apply blank_cons (by decide)
  intro c hc
  rw [(List.mem_replicate.mp hc).2]
  decide

mutual

theorem written_compactChars : ∀ v : Json, Written (.value v) v.compactChars
  | .null => .null
  | .bool b => .bool b
  | .number n => .number n
  | .string s => .string (spelled_flatMap s.toList)
  | .array [] => .emptyList blank_nil
  | .array (v :: vs) => .list blank_nil (written_compactChars v) (written_compactItems vs)
  | .object [] => .emptyObject blank_nil
  | .object ((key, v) :: ms) => by
      have h := Written.object blank_nil (spelled_flatMap key.toList) blank_nil blank_nil
        (written_compactChars v) (written_compactMembers ms)
      simpa [compactChars, stringChars] using h

theorem written_compactItems : ∀ vs : List Json, Written (.items vs) (compactItems vs)
  | [] => .listEnd blank_nil
  | v :: vs => .item blank_nil blank_nil (written_compactChars v) (written_compactItems vs)

theorem written_compactMembers :
    ∀ ms : List (String × Json), Written (.members ms) (compactMembers ms)
  | [] => .objectEnd blank_nil
  | (key, v) :: ms => by
      have h := Written.member blank_nil blank_nil (spelled_flatMap key.toList) blank_nil
        blank_nil (written_compactChars v) (written_compactMembers ms)
      simpa [compactMembers, stringChars] using h

end

mutual

theorem written_prettyChars (depth : Nat) :
    ∀ v : Json, Written (.value v) (v.prettyChars depth)
  | .null => .null
  | .bool b => .bool b
  | .number n => .number n
  | .string s => .string (spelled_flatMap s.toList)
  | .array [] => .emptyList blank_nil
  | .array (v :: vs) =>
      .list (blank_lineAt _) (written_prettyChars (depth + 1) v) (written_prettyItems depth vs)
  | .object [] => .emptyObject blank_nil
  | .object ((key, v) :: ms) => by
      have h := Written.object (blank_lineAt (depth + 1)) (spelled_flatMap key.toList) blank_nil
        (blank_cons (by decide : isSpace ' ' = true) blank_nil) (written_prettyChars (depth + 1) v)
        (written_prettyMembers depth ms)
      simpa [prettyChars, stringChars] using h

theorem written_prettyItems (depth : Nat) :
    ∀ vs : List Json, Written (.items vs) (prettyItems depth vs)
  | [] => .listEnd (blank_lineAt depth)
  | v :: vs =>
      .item blank_nil (blank_lineAt (depth + 1)) (written_prettyChars (depth + 1) v)
        (written_prettyItems depth vs)

theorem written_prettyMembers (depth : Nat) :
    ∀ ms : List (String × Json), Written (.members ms) (prettyMembers depth ms)
  | [] => .objectEnd (blank_lineAt depth)
  | (key, v) :: ms => by
      have h := Written.member blank_nil (blank_lineAt (depth + 1)) (spelled_flatMap key.toList)
        blank_nil (blank_cons (by decide : isSpace ' ' = true) blank_nil)
        (written_prettyChars (depth + 1) v) (written_prettyMembers depth ms)
      simpa [prettyMembers, stringChars] using h

end

/-- Both layouts are ways to write a value. -/
theorem written_text (isPretty : Bool) (v : Json) :
    Written (.value v) (v.text isPretty).toList := by
  cases isPretty with
  | false => simpa [Json.text, compact] using written_compactChars v
  | true => simpa [Json.text, pretty] using written_prettyChars 0 v

end DartTriggers.Json
