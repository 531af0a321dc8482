import DartTriggers.Json.Reader
/-!
Decoders for the kinds of values that documents are made of. A value of another kind is read, if
it holds no others, and then refused by name.
-/

namespace DartTriggers.Json

/-- Reports a value of the wrong kind, once its text has been read. -/
def refuseRead (found : Found) (wanted : String) : Except Fault (List Char) → Fault
  | .error fault => fault
  | .ok rest => .before (.wrongKind found wanted) rest

/-- Reports that the value at the front is not what is wanted. -/
def refuse (wanted : String) : List Char → Fault
  | [] => .onto .endInValue []
  | c :: rest =>
      let number (negative : Bool) (s : List Char) : Fault :=
        match readNumber negative s with
        | .error fault => fault
        | .ok (value, rest) => .before (.wrongKind (.number value) wanted) rest
      if c = 'n' then refuseRead .null wanted (literal ['u', 'l', 'l'] rest)
      else if c = 't' then refuseRead (.bool true) wanted (literal ['r', 'u', 'e'] rest)
      else if c = 'f' then refuseRead (.bool false) wanted (literal ['a', 'l', 's', 'e'] rest)
      else if c = '-' then number true rest
      else if Numeral.isDigit c then number false (c :: rest)
      else if c = '"' then
        match stringBody rest with
        | .error fault => fault
        | .ok (xs, rest) => .before (.wrongKind (.string (.ofList xs)) wanted) rest
      else if c = '[' then .before (.wrongKind .sequence wanted) (c :: rest)
      else if c = '\x7b' then .before (.wrongKind .map wanted) (c :: rest)
      else .onto .expectedValue (c :: rest)

/-- Reads a string. -/
def Reader.text : Reader String where
  run s :=
    match skipSpace s with
    | [] => .error (.onto .endInValue [])
    | c :: rest =>
        if c = '"' then
          match stringBody rest with
          | .error fault => .error fault
          | .ok (xs, rest) => .ok (.ofList xs, rest)
        else .error (refuse "a string" (c :: rest))
  shorter {s _ _} h := by
    have := length_skipSpace_le s
    grind [→ length_of_stringBody]

/-- Reads `null`, where something else is refused as not being what is wanted. -/
def nullNamed (wanted : String) : Reader Unit where
  run s :=
    match skipSpace s with
    | [] => .error (.onto .endInValue [])
    | c :: rest =>
        if c = 'n' then
          match literal ['u', 'l', 'l'] rest with
          | .error fault => .error fault
          | .ok rest => .ok ((), rest)
        else .error (refuse wanted (c :: rest))
  shorter {s _ _} h := by
    have := length_skipSpace_le s
    grind [→ length_of_literal]

namespace Decoder

def text : Decoder String :=
  fun _ => .text

def flag : Decoder Bool := fun _ =>
  { run := fun s =>
      match skipSpace s with
      | [] => .error (.onto .endInValue [])
      | c :: rest =>
          if c = 't' then
            match literal ['r', 'u', 'e'] rest with
            | .error fault => .error fault
            | .ok rest => .ok (true, rest)
          else if c = 'f' then
            match literal ['a', 'l', 's', 'e'] rest with
            | .error fault => .error fault
            | .ok rest => .ok (false, rest)
          else .error (refuse "a boolean" (c :: rest))
    shorter := by
      intro s _ _ h
      have := length_skipSpace_le s
      grind [→ length_of_literal] }

/-- Reads the value of a string, number or literal name. -/
def scalar : List Char → Except Fault (Json × List Char)
  | [] => .error (.onto .endInValue [])
  | c :: rest =>
      let named (letters : List Char) (value : Json) : Except Fault (Json × List Char) :=
        match literal letters rest with
        | .error fault => .error fault
        | .ok rest => .ok (value, rest)
      let number (negative : Bool) (s : List Char) : Except Fault (Json × List Char) :=
        match readNumber negative s with
        | .error fault => .error fault
        | .ok (value, rest) => .ok (.number value, rest)
      if c = '"' then
        match stringBody rest with
        | .error fault => .error fault
        | .ok (xs, rest) => .ok (.string (.ofList xs), rest)
      else if c = 'n' then named ['u', 'l', 'l'] .null
      else if c = 't' then named ['r', 'u', 'e'] (.bool true)
      else if c = 'f' then named ['a', 'l', 's', 'e'] (.bool false)
      else if c = '-' then number true rest
      else if Numeral.isDigit c then number false (c :: rest)
      else .error (.onto .expectedValue (c :: rest))

theorem length_of_scalar {s rest : List Char} {value : Json} (h : scalar s = .ok (value, rest)) :
    rest.length < s.length := by
  unfold scalar at h
  grind [→ length_of_stringBody, → length_of_literal, → length_of_readNumber]

/-- Reads any value, given a reader for what stands inside its brackets, if they may be
opened. -/
def anyAbove (inner : Option (Reader Json)) : Reader Json where
  run s :=
    match skipSpace s with
    | [] => .error (.onto .endInValue [])
    | c :: rest =>
        if c = '[' then
          match inner with
          | none => .error (.onto .nestedTooDeep (c :: rest))
          | some r =>
              match r.list rest with
              | .error fault => .error fault
              | .ok (xs, rest) => .ok (.array xs, rest)
        else if c = '\x7b' then
          match inner with
          | none => .error (.onto .nestedTooDeep (c :: rest))
          | some r =>
              match r.object rest with
              | .error fault => .error fault
              | .ok (xs, rest) => .ok (.object xs, rest)
        else scalar (c :: rest)
  shorter {s _ _} h := by
    have := length_skipSpace_le s
    grind [→ Reader.length_of_list, → Reader.length_of_object, → length_of_scalar]

/-- Reads any value. -/
def any : Decoder Json
  | 0 => anyAbove none
  | levels + 1 => anyAbove (some (any levels))

/-- Reads a list whose items all have one form. -/
def list {α : Type} (d : Decoder α) : Decoder (List α) := fun levels =>
  { run := fun s =>
      match skipSpace s with
      | [] => .error (.onto .endInValue [])
      | c :: rest =>
          if c = '[' then
            match levels with
            | 0 => .error (.onto .nestedTooDeep (c :: rest))
            | levels + 1 => (d levels).list rest
          else .error (refuse "a sequence" (c :: rest))
    shorter := by
      intro s _ _ h
      have := length_skipSpace_le s
      grind [→ Reader.length_of_list] }

/-- Reads a value, or `null` for none. -/
def readOptional {α : Type} (r : Reader α) (s : List Char) :
    Except Fault (Option α × List Char) :=
  match skipSpace s with
  | [] => .error (.onto .endInValue [])
  | c :: rest =>
      if c = 'n' then
        match literal ['u', 'l', 'l'] rest with
        | .error fault => .error fault
        | .ok rest => .ok (none, rest)
      else
        match r.run (c :: rest) with
        | .error fault => .error fault
        | .ok (x, rest) => .ok (some x, rest)

theorem length_of_readOptional {α : Type} {r : Reader α} {s rest : List Char} {x : Option α}
    (h : readOptional r s = .ok (x, rest)) : rest.length < s.length := by
  unfold readOptional at h
  have := length_skipSpace_le s
  grind [→ length_of_literal, → Reader.shorter]

/-- Reads a value, or `null` for none. -/
def optional {α : Type} (d : Decoder α) : Decoder (Option α) :=
  fun levels => ⟨readOptional (d levels), length_of_readOptional⟩

/-- Applies a function to what is read. -/
def map {α β : Type} (f : α → β) (d : Decoder α) : Decoder β :=
  fun levels => (d levels).map f

/-- The value that a name stands for. -/
def named {α : Type} (names : List (String × α)) (name : String) (rest : List Char) :
    Except Fault (α × List Char) :=
  match names.lookup name with
  | some x => .ok (x, rest)
  | none => .error (.before (.unmet (.unknownName name (names.map (·.1)))) rest)

theorem length_of_named {α : Type} {names : List (String × α)} {name : String}
    {s rest : List Char} {x : α} (h : named names name s = .ok (x, rest)) : rest = s := by
  unfold named at h
  grind

/-- Reads the rest of an object with one key, after that key: a colon, `null` and the closing
brace. -/
def onlyNull (s : List Char) : Except Fault (List Char) :=
  match colon s with
  | .error fault => .error fault
  | .ok rest =>
      match (nullNamed "unit").run rest with
      | .error fault => .error fault
      | .ok (_, rest) =>
          match skipSpace rest with
          | [] => .error (.before .endInObject [])
          | c :: rest =>
              if c = '\x7d' then .ok rest else .error (.before .expectedValue (c :: rest))

theorem length_of_onlyNull {s rest : List Char} (h : onlyNull s = .ok rest) :
    rest.length < s.length := by
  unfold onlyNull at h
  grind [length_skipSpace_le, → length_of_colon, → Reader.shorter]

/-- Reads a name as the only key of an object, after its opening brace. The key is found like the
first one of a record, with the same complaints; an object without any lacks a value. -/
def keyedName {α : Type} (names : List (String × α)) (s : List Char) :
    Except Fault (α × List Char) :=
  match firstKey s with
  | .error fault => .error fault
  | .ok (.close rest) => .error (.onto .expectedValue ('\x7d' :: rest))
  | .ok (.entry rest) =>
      match stringBody rest with
      | .error fault => .error fault
      | .ok (name, rest) =>
          match named names (.ofList name) rest with
          | .error fault => .error fault
          | .ok (x, rest) =>
              match onlyNull rest with
              | .error fault => .error fault
              | .ok rest => .ok (x, rest)

theorem length_of_keyedName {α : Type} {names : List (String × α)} {s rest : List Char} {x : α}
    (h : keyedName names s = .ok (x, rest)) : rest.length < s.length := by
  unfold keyedName at h
  grind [→ length_of_onlyNull, → length_of_named, → length_of_stringBody, → length_of_firstKey,
    Next.rest]

/-- Reads one of some names, given as a string or as the only key of an object that holds
`null`. -/
def choice {α : Type} (names : List (String × α)) : Decoder α := fun levels =>
  { run := fun s =>
      match skipSpace s with
      | [] => .error (.onto .endInValue [])
      | c :: rest =>
          if c = '"' then
            match stringBody rest with
            | .error fault => .error fault
            | .ok (xs, rest) => named names (.ofList xs) rest
          else if c = '\x7b' then
            match levels with
            | 0 => .error (.onto .nestedTooDeep (c :: rest))
            | _ + 1 => keyedName names rest
          else .error (.onto .expectedValue (c :: rest))
    shorter := by
      intro s _ _ h
      have := length_skipSpace_le s
      grind [→ length_of_stringBody, → length_of_named, → length_of_keyedName] }

end Decoder

/-- How many brackets may be open at once. -/
def levelLimit : Nat := 127

/-- Reads a whole document: one value with nothing but blanks after it. -/
def decode {α : Type} (d : Decoder α) (source : String) : Except ReadError α :=
  match (d levelLimit).run source.toList with
  | .error fault => .error (.locate source fault)
  | .ok (x, rest) =>
      match skipSpace rest with
      | [] => .ok x
      | c :: rest => .error (.locate source (.onto .trailingCharacters (c :: rest)))

end DartTriggers.Json
