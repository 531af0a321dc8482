import DartTriggers.Json.Skip
/-!
Readers of values: a reader takes one value off the front of a text and always takes something,
which is what lets lists and objects of any length be read. A decoder is a reader for every
number of brackets that may still be opened.
-/

namespace DartTriggers.Json

/-- Reads one value from the front of a text. -/
structure Reader (α : Type) where
  run : List Char → Except Fault (α × List Char)
  /-- Something has been read. -/
  shorter : ∀ {s rest : List Char} {x : α}, run s = .ok (x, rest) → rest.length < s.length

/-- Reads one value, where some more brackets may be opened. -/
abbrev Decoder (α : Type) := (levels : Nat) → Reader α

/-- What comes next inside brackets: an entry, before which `rest` starts, or the closing
character, after which it does. -/
inductive Next where
  | entry (rest : List Char)
  | close (rest : List Char)

/-- The text from there on. -/
def Next.rest : Next → List Char
  | .entry rest => rest
  | .close rest => rest

/-- The first item of a list, after its opening bracket. -/
def firstItem (s : List Char) : Except Fault Next :=
  match skipSpace s with
  | [] => .error (.onto .endInList [])
  | c :: rest => if c = ']' then .ok (.close rest) else .ok (.entry (c :: rest))

/-- The next item of a list, after an item. -/
def nextItem (s : List Char) : Except Fault Next :=
  match skipSpace s with
  | [] => .error (.onto .endInList [])
  | c :: rest =>
      if c = ']' then .ok (.close rest)
      else if c = ',' then
        match skipSpace rest with
        | [] => .error (.onto .endInValue [])
        | d :: rest =>
            if d = ']' then .error (.onto .trailingComma (d :: rest)) else .ok (.entry (d :: rest))
      else .error (.onto .expectedListEnd (c :: rest))

/-- The first key of an object, after its opening brace; an entry starts after the quote. -/
def firstKey (s : List Char) : Except Fault Next :=
  match skipSpace s with
  | [] => .error (.onto .endInObject [])
  | c :: rest =>
      if c = '\x7d' then .ok (.close rest)
      else if c = '"' then .ok (.entry rest)
      else .error (.onto .expectedKey (c :: rest))

/-- The next key of an object, after a value; an entry starts after the quote. -/
def nextKey (s : List Char) : Except Fault Next :=
  match skipSpace s with
  | [] => .error (.onto .endInObject [])
  | c :: rest =>
      if c = '\x7d' then .ok (.close rest)
      else if c = ',' then
        match skipSpace rest with
        | [] => .error (.onto .endInValue [])
        | d :: rest =>
            if d = '"' then .ok (.entry rest)
            else if d = '\x7d' then .error (.onto .trailingComma (d :: rest))
            else .error (.onto .expectedKey (d :: rest))
      else .error (.onto .expectedObjectEnd (c :: rest))

theorem length_of_firstItem {s : List Char} {next : Next} (h : firstItem s = .ok next) :
    next.rest.length ≤ s.length := by
  have := length_skipSpace_le s
  unfold firstItem at h
  grind [length_skipSpace_le, Next.rest]

theorem length_of_nextItem {s : List Char} {next : Next} (h : nextItem s = .ok next) :
    next.rest.length < s.length := by
  have := length_skipSpace_le s
  unfold nextItem at h
  grind [length_skipSpace_le, Next.rest]

theorem length_of_firstKey {s : List Char} {next : Next} (h : firstKey s = .ok next) :
    next.rest.length < s.length := by
  have := length_skipSpace_le s
  unfold firstKey at h
  grind [length_skipSpace_le, Next.rest]

theorem length_of_nextKey {s : List Char} {next : Next} (h : nextKey s = .ok next) :
    next.rest.length < s.length := by
  have := length_skipSpace_le s
  unfold nextKey at h
  grind [length_skipSpace_le, Next.rest]

namespace Reader

/-- Reads the items of a list from its first one to the closing bracket. -/
def items {α : Type} (r : Reader α) (s : List Char) : Except Fault (List α × List Char) :=
  match _h : r.run s with
  | .error fault => .error fault
  | .ok (x, rest) =>
      match _h' : nextItem rest with
      | .error fault => .error fault
      | .ok (.close rest') => .ok ([x], rest')
      | .ok (.entry rest') =>
          match items r rest' with
          | .error fault => .error fault
          | .ok (xs, rest'') => .ok (x :: xs, rest'')
termination_by s.length
decreasing_by
  have := r.shorter _h
  have := length_of_nextItem _h'
  simp only [Next.rest] at this
  omega

/-- Reads a list after its opening bracket. -/
def list {α : Type} (r : Reader α) (s : List Char) : Except Fault (List α × List Char) :=
  match firstItem s with
  | .error fault => .error fault
  | .ok (.close rest) => .ok ([], rest)
  | .ok (.entry rest) => r.items rest

/-- Reads the members of an object from inside its first key to the closing brace. -/
def members {α : Type} (r : Reader α) (s : List Char) :
    Except Fault (List (String × α) × List Char) :=
  match _h : stringBody s with
  | .error fault => .error fault
  | .ok (key, rest) =>
      match _h' : colon rest with
      | .error fault => .error fault
      | .ok rest' =>
          match _h'' : r.run rest' with
          | .error fault => .error fault
          | .ok (x, rest'') =>
              match _h''' : nextKey rest'' with
              | .error fault => .error fault
              | .ok (.close rest''') => .ok ([(.ofList key, x)], rest''')
              | .ok (.entry rest''') =>
                  match members r rest''' with
                  | .error fault => .error fault
                  | .ok (xs, left) => .ok ((.ofList key, x) :: xs, left)
termination_by s.length
decreasing_by
  have := length_of_stringBody _h
  have := length_of_colon _h'
  have := r.shorter _h''
  have := length_of_nextKey _h'''
  simp only [Next.rest] at this
  omega

/-- Reads an object after its opening brace. -/
def object {α : Type} (r : Reader α) (s : List Char) :
    Except Fault (List (String × α) × List Char) :=
  match firstKey s with
  | .error fault => .error fault
  | .ok (.close rest) => .ok ([], rest)
  | .ok (.entry rest) => r.members rest

variable {α : Type} {r : Reader α} {s rest : List Char}

theorem length_of_items {xs : List α} (h : r.items s = .ok (xs, rest)) :
    rest.length < s.length := by
  fun_induction items r s generalizing xs rest <;>
    grind [→ length_of_nextItem, → Reader.shorter, Next.rest]

theorem length_of_list {xs : List α} (h : r.list s = .ok (xs, rest)) :
    rest.length ≤ s.length := by
  unfold list at h
  grind [→ length_of_firstItem, → length_of_items, Next.rest]

theorem length_of_members {xs : List (String × α)} (h : r.members s = .ok (xs, rest)) :
    rest.length < s.length := by
  fun_induction members r s generalizing xs rest <;>
    grind [→ length_of_nextKey, → Reader.shorter, → length_of_stringBody, → length_of_colon,
      Next.rest]

theorem length_of_object {xs : List (String × α)} (h : r.object s = .ok (xs, rest)) :
    rest.length < s.length := by
  unfold object at h
  grind [→ length_of_firstKey, → length_of_members, Next.rest]

/-- Applies a function to what is read. -/
def map {β : Type} (f : α → β) (r : Reader α) : Reader β where
  run s :=
    match r.run s with
    | .error fault => .error fault
    | .ok (x, rest) => .ok (f x, rest)
  shorter h := by grind [→ Reader.shorter]

end Reader

end DartTriggers.Json
