import DartTriggers.Json.Fault
/-!
The pieces that documents are made of, read from the front of a text: blanks, literal names and
strings. Each reader gives the rest of the text, and that rest is shorter whenever something was
read.
-/

namespace DartTriggers.Json

def isSpace (c : Char) : Bool :=
  c == ' ' || c == '\t' || c == '\n' || c == '\r'

def skipSpace (s : List Char) : List Char :=
  s.dropWhile isSpace

theorem length_skipSpace_le (s : List Char) : (skipSpace s).length ≤ s.length :=
  (List.dropWhile_sublist isSpace).length_le

/-- Reads the remaining letters of a literal name. -/
def literal : (letters : List Char) → List Char → Except Fault (List Char)
  | [], s => .ok s
  | _ :: _, [] => .error (.before .endInValue [])
  | letter :: letters, c :: rest =>
      if c = letter then literal letters rest else .error (.onto .expectedLiteral (c :: rest))

theorem length_of_literal {letters s rest : List Char} (h : literal letters s = .ok rest) :
    rest.length + letters.length = s.length := by
  induction letters generalizing s with
  | nil => simp_all [literal]
  | cons letter letters ih => cases s <;> grind [literal]

/-- The value of a digit in base sixteen. -/
def hexValue (c : Char) : Option Nat :=
  let n := c.toNat
  if 48 ≤ n ∧ n ≤ 57 then some (n - 48)
  else if 65 ≤ n ∧ n ≤ 70 then some (n - 55)
  else if 97 ≤ n ∧ n ≤ 102 then some (n - 87)
  else none

/-- What is wrong where four digits in base sixteen should stand: four bytes are taken before
they are judged. -/
def noHexUnit (s : List Char) : Fault :=
  if byteCount s < 4 then ⟨.endInString, 0⟩ else ⟨.unknownEscape, byteCount s - 4⟩

/-- Reads four digits in base sixteen. -/
def hexUnit : List Char → Except Fault (Nat × List Char)
  | a :: b :: c :: d :: rest =>
      match hexValue a, hexValue b, hexValue c, hexValue d with
      | some a, some b, some c, some d => .ok (((a * 16 + b) * 16 + c) * 16 + d, rest)
      | _, _, _, _ => .error (noHexUnit (a :: b :: c :: d :: rest))
  | s => .error (noHexUnit s)

theorem length_of_hexUnit {s rest : List Char} {n : Nat} (h : hexUnit s = .ok (n, rest)) :
    rest.length < s.length := by
  unfold hexUnit at h
  grind

def isLeadingSurrogate (n : Nat) : Bool :=
  0xD800 ≤ n && n ≤ 0xDBFF

def isTrailingSurrogate (n : Nat) : Bool :=
  0xDC00 ≤ n && n ≤ 0xDFFF

/-- Reads the second half of a character beyond the first plane, whose first half was `lead`. -/
def pairedUnit (lead : Nat) : List Char → Except Fault (Char × List Char)
  | [] => .error (.before .endInString [])
  | c :: rest =>
      if c = '\\' then
        match rest with
        | [] => .error (.before .endInString [])
        | u :: rest =>
            if u = 'u' then
              match hexUnit rest with
              | .error fault => .error fault
              | .ok (n, rest) =>
                  if isTrailingSurrogate n then
                    .ok (Char.ofNat ((lead - 0xD800) * 0x400 + (n - 0xDC00) + 0x10000), rest)
                  else .error (.before .loneSurrogate rest)
            else .error (.onto .unfinishedSurrogate (u :: rest))
      else .error (.onto .unfinishedSurrogate (c :: rest))

theorem length_of_pairedUnit {lead : Nat} {s rest : List Char} {x : Char}
    (h : pairedUnit lead s = .ok (x, rest)) : rest.length < s.length := by
  unfold pairedUnit at h
  grind [→ length_of_hexUnit]

/-- Reads a character written by its number. -/
def numberedChar (s : List Char) : Except Fault (Char × List Char) :=
  match hexUnit s with
  | .error fault => .error fault
  | .ok (n, rest) =>
      if isTrailingSurrogate n then .error (.before .loneSurrogate rest)
      else if isLeadingSurrogate n then pairedUnit n rest
      else .ok (Char.ofNat n, rest)

theorem length_of_numberedChar {s rest : List Char} {x : Char}
    (h : numberedChar s = .ok (x, rest)) : rest.length < s.length := by
  unfold numberedChar at h
  grind [→ length_of_hexUnit, → length_of_pairedUnit]

/-- The character that a one-letter escape stands for. -/
def shortEscape (c : Char) : Option Char :=
  if c = '"' ∨ c = '\\' ∨ c = '/' then some c
  else if c = 'b' then some '\x08'
  else if c = 'f' then some '\x0c'
  else if c = 'n' then some '\n'
  else if c = 'r' then some '\r'
  else if c = 't' then some '\t'
  else none

/-- Reads what follows a backslash. -/
def escape : List Char → Except Fault (Char × List Char)
  | [] => .error (.before .endInString [])
  | c :: rest =>
      if c = 'u' then numberedChar rest
      else
        match shortEscape c with
        | some x => .ok (x, rest)
        | none => .error (.onto .unknownEscape (c :: rest))

theorem length_of_escape {s rest : List Char} {x : Char} (h : escape s = .ok (x, rest)) :
    rest.length < s.length := by
  unfold escape at h
  grind [→ length_of_numberedChar]

/-- Reads the characters of a string up to its closing quote. -/
def stringBody (s : List Char) : Except Fault (List Char × List Char) :=
  match s with
  | [] => .error (.before .endInString [])
  | c :: rest =>
      if c = '"' then .ok ([], rest)
      else if c = '\\' then
        match _h : escape rest with
        | .error fault => .error fault
        | .ok (x, rest') =>
            match stringBody rest' with
            | .error fault => .error fault
            | .ok (xs, rest'') => .ok (x :: xs, rest'')
      else if c.toNat < 0x20 then .error (.before .controlCharacter rest)
      else
        match stringBody rest with
        | .error fault => .error fault
        | .ok (xs, rest') => .ok (c :: xs, rest')
termination_by s.length
decreasing_by
  · grind [→ length_of_escape]
  · simp

theorem length_of_stringBody {s rest xs : List Char} (h : stringBody s = .ok (xs, rest)) :
    rest.length < s.length := by
  fun_induction stringBody s generalizing xs rest <;> grind [→ length_of_escape]

/-- Passes over what follows a backslash, without asking which character it stands for. -/
def skipEscape : List Char → Except Fault (List Char)
  | [] => .error (.before .endInString [])
  | c :: rest =>
      if c = 'u' then
        match hexUnit rest with
        | .error fault => .error fault
        | .ok (_, rest) => .ok rest
      else if (shortEscape c).isSome then .ok rest
      else .error (.onto .unknownEscape (c :: rest))

theorem length_of_skipEscape {s rest : List Char} (h : skipEscape s = .ok rest) :
    rest.length < s.length := by
  unfold skipEscape at h
  grind [→ length_of_hexUnit]

/-- Passes over a string up to its closing quote. -/
def skipString (s : List Char) : Except Fault (List Char) :=
  match s with
  | [] => .error (.before .endInString [])
  | c :: rest =>
      if c = '"' then .ok rest
      else if c = '\\' then
        match _h : skipEscape rest with
        | .error fault => .error fault
        | .ok rest' => skipString rest'
      else if c.toNat < 0x20 then .error (.before .controlCharacter (c :: rest))
      else skipString rest
termination_by s.length
decreasing_by
  · grind [→ length_of_skipEscape]
  · simp

theorem length_of_skipString {s rest : List Char} (h : skipString s = .ok rest) :
    rest.length < s.length := by
  fun_induction skipString s <;> grind [→ length_of_skipEscape]

end DartTriggers.Json
