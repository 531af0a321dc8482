import DartTriggers.Json.Numeral
/-!
Passing over a value that nobody asks for. Only the form of the document is watched: nesting may
be as deep as it likes, numbers as large, and halves of characters may stand alone.
-/

namespace DartTriggers.Json

/-- Where in a document a value stands: in a list or in an object. -/
inductive Bracket where
  | list
  | object
deriving DecidableEq, Repr

namespace Bracket

/-- The character that closes the bracket. -/
def close : Bracket → Char
  | .list => ']'
  | .object => '\x7d'

/-- The cause if the text ends inside the bracket. -/
def atEnd : Bracket → Cause
  | .list => .endInList
  | .object => .endInObject

/-- The cause if neither a comma nor the closing character follows an entry. -/
def expectedEnd : Bracket → Cause
  | .list => .expectedListEnd
  | .object => .expectedObjectEnd

end Bracket

/-- Reads the colon after a key. -/
def colon (s : List Char) : Except Fault (List Char) :=
  match skipSpace s with
  | [] => .error (.onto .endInObject [])
  | c :: rest => if c = ':' then .ok rest else .error (.onto .expectedColon (c :: rest))

theorem length_of_colon {s rest : List Char} (h : colon s = .ok rest) :
    rest.length < s.length := by
  have := length_skipSpace_le s
  unfold colon at h
  grind

/-- Passes over a value that holds no others. -/
def skipScalar : List Char → Except Fault (List Char)
  | [] => .error (.onto .endInValue [])
  | c :: rest =>
      if c = '"' then skipString rest
      else if c = 'n' then literal ['u', 'l', 'l'] rest
      else if c = 't' then literal ['r', 'u', 'e'] rest
      else if c = 'f' then literal ['a', 'l', 's', 'e'] rest
      else if c = '-' then skipNumber rest
      else if Numeral.isDigit c then skipNumber (c :: rest)
      else .error (.onto .expectedValue (c :: rest))

theorem length_of_skipScalar {s rest : List Char} (h : skipScalar s = .ok rest) :
    rest.length < s.length := by
  unfold skipScalar at h
  grind [→ length_of_skipString, → length_of_literal, → length_of_skipNumber]

mutual

/-- Passes over a value inside the given brackets, innermost first, and over all that follows
until the brackets are closed. -/
def skipFrom (inside : List Bracket) (s : List Char) : Except Fault (List Char) :=
  match _h : skipSpace s with
  | [] => .error (.onto .endInValue [])
  | c :: rest =>
      if c = '[' then
        match _h' : skipSpace rest with
        | [] => .error (.onto .endInList [])
        | d :: rest' => if d = ']' then skipAfter inside rest' else skipFrom (.list :: inside) rest
      else if c = '\x7b' then
        match _h' : skipSpace rest with
        | [] => .error (.onto .endInObject [])
        | d :: rest' =>
            if d = '\x7d' then skipAfter inside rest' else skipKey (.object :: inside) rest
      else
        match _h' : skipScalar (c :: rest) with
        | .error fault => .error fault
        | .ok rest => skipAfter inside rest
termination_by s.length
decreasing_by all_goals grind [length_skipSpace_le, → length_of_skipScalar]

/-- Goes on after a value. -/
def skipAfter (inside : List Bracket) (s : List Char) : Except Fault (List Char) :=
  match inside with
  | [] => .ok s
  | bracket :: outside =>
      match _h : skipSpace s with
      | [] => .error (.onto bracket.atEnd [])
      | c :: rest =>
          if c = ',' then
            match bracket with
            | .list => skipFrom (bracket :: outside) rest
            | .object => skipKey (bracket :: outside) rest
          else if c = bracket.close then skipAfter outside rest
          else .error (.onto bracket.expectedEnd (c :: rest))
termination_by s.length
decreasing_by all_goals grind [length_skipSpace_le]

/-- Passes over a key and goes on with its value. -/
def skipKey (inside : List Bracket) (s : List Char) : Except Fault (List Char) :=
  match _h : skipSpace s with
  | [] => .error (.onto .endInObject [])
  | c :: rest =>
      if c = '"' then
        match _h' : skipString rest with
        | .error fault => .error fault
        | .ok rest' =>
            match _h'' : colon rest' with
            | .error fault => .error fault
            | .ok rest'' => skipFrom inside rest''
      else .error (.onto .expectedKey (c :: rest))
termination_by s.length
decreasing_by all_goals grind [length_skipSpace_le, → length_of_skipString, → length_of_colon]

end

/-- What is left after a value, or after a key and its value, is shorter than before; what is left
after closing brackets is not longer. -/
theorem length_of_skip (n : Nat) : ∀ s : List Char, s.length ≤ n → ∀ inside rest,
    (skipFrom inside s = .ok rest → rest.length < s.length) ∧
    (skipAfter inside s = .ok rest → rest.length ≤ s.length) ∧
    (skipKey inside s = .ok rest → rest.length < s.length) := by
  induction n with
  | zero =>
      intro s hs inside rest
      obtain rfl : s = [] := List.length_eq_zero_iff.1 (by omega)
      refine ⟨fun h => ?_, fun h => ?_, fun h => ?_⟩
      · simp [skipFrom, skipSpace] at h
      · unfold skipAfter at h
        cases inside <;> simp_all [skipSpace]
      · simp [skipKey, skipSpace] at h
  | succ n ih =>
      intro s hs inside rest
      have hspace := length_skipSpace_le s
      refine ⟨fun h => ?_, fun h => ?_, fun h => ?_⟩
      · unfold skipFrom at h
        grind [length_skipSpace_le, → length_of_skipScalar]
      · unfold skipAfter at h
        grind [length_skipSpace_le]
      · unfold skipKey at h
        grind [length_skipSpace_le, → length_of_skipString, → length_of_colon]

/-- Passes over one value. -/
def skipValue (s : List Char) : Except Fault (List Char) :=
  skipFrom [] s

theorem length_of_skipValue {s rest : List Char} (h : skipValue s = .ok rest) :
    rest.length < s.length :=
  (length_of_skip s.length s (Nat.le_refl _) [] rest).1 h

end DartTriggers.Json
