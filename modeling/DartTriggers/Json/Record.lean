import DartTriggers.Json.Decoder
/-!
Decoders for records with named fields. A record is an object, whose unknown keys are passed over
and whose known keys may not be repeated, or an array of the fields in their order, where fields
at the end may be left out if they have a default. A complaint about the fields is reported where
the record is given up: after its closing character, if that is what comes next.
-/

namespace DartTriggers.Json

/-- A field of a record that is gathered in a draft of type `σ`. -/
structure RecordField (σ : Type) where
  key : String
  /-- Whether an array may end before this field. -/
  hasDefault : Bool
  isSet : σ → Bool
  reader : (levels : Nat) → Reader (Except Complaint (σ → σ))

/-- A field that is read by a decoder of its own. -/
def RecordField.of {σ β : Type} (key : String) (hasDefault : Bool) (d : Decoder β)
    (get : σ → Option β) (set : β → σ → σ) : RecordField σ where
  key := key
  hasDefault := hasDefault
  isSet draft := (get draft).isSome
  reader levels := (d levels).map fun x => .ok (set x)

/-- A record of type `α`, gathered in a draft of type `σ`. -/
structure Record (σ α : Type) where
  /-- What messages call the record. -/
  title : String
  fields : List (RecordField σ)
  empty : σ
  finish : σ → Except Complaint α

/-- The text left where an object is given up. -/
def giveUpObject (s : List Char) : List Char :=
  match skipSpace s with
  | [] => []
  | c :: rest => if c = '\x7d' then rest else c :: rest

/-- The text left where an array is given up. -/
def giveUpList (s : List Char) : List Char :=
  match skipSpace s with
  | [] => []
  | c :: rest =>
      if c = ']' then rest
      else if c = ',' then skipSpace rest
      else c :: rest

/-- Reads the closing bracket of an array whose items have all been read. -/
def closeList (s : List Char) : Except Fault (List Char) :=
  match skipSpace s with
  | [] => .error (.onto .endInList [])
  | c :: rest =>
      if c = ']' then .ok rest
      else if c = ',' then
        match skipSpace rest with
        | [] => .error (.onto .trailingCharacters [])
        | d :: rest =>
            if d = ']' then .error (.onto .trailingComma (d :: rest))
            else .error (.onto .trailingCharacters (d :: rest))
      else .error (.onto .trailingCharacters (c :: rest))

theorem length_of_closeList {s rest : List Char} (h : closeList s = .ok rest) :
    rest.length < s.length := by
  have := length_skipSpace_le s
  unfold closeList at h
  grind

namespace Record

variable {σ α : Type}

/-- Reads the value of a known field into the draft. -/
def fieldValue (field : RecordField σ) (levels : Nat) (draft : σ) (s : List Char)
    (giveUp : List Char → List Char) : Except Fault (σ × List Char) :=
  match (field.reader levels).run s with
  | .error fault => .error fault
  | .ok (.error complaint, rest) => .error (.before (.unmet complaint) (giveUp rest))
  | .ok (.ok update, rest) => .ok (update draft, rest)

theorem length_of_fieldValue {field : RecordField σ} {levels : Nat} {draft draft' : σ}
    {s rest : List Char} {giveUp : List Char → List Char}
    (h : fieldValue field levels draft s giveUp = .ok (draft', rest)) :
    rest.length < s.length := by
  unfold fieldValue at h
  grind [→ Reader.shorter]

/-- Reads a colon and the value of a key into the draft. -/
def member (fields : List (RecordField σ)) (levels : Nat) (draft : σ) (key : String)
    (s : List Char) :
    Except Fault (σ × List Char) :=
  match fields.find? (fun field => field.key == key) with
  | none =>
      match colon s with
      | .error fault => .error fault
      | .ok rest =>
          match skipValue rest with
          | .error fault => .error fault
          | .ok rest => .ok (draft, rest)
  | some field =>
      if field.isSet draft then .error (.before (.unmet (.repeatedField key)) (giveUpObject s))
      else
        match colon s with
        | .error fault => .error fault
        | .ok rest => fieldValue field levels draft rest giveUpObject

theorem length_of_member {fields : List (RecordField σ)} {levels : Nat} {draft draft' : σ}
    {key : String} {s rest : List Char}
    (h : member fields levels draft key s = .ok (draft', rest)) :
    rest.length < s.length := by
  unfold member at h
  grind [→ length_of_colon, → length_of_skipValue, → length_of_fieldValue]

/-- Reads the members of an object from inside its first key to the closing brace. -/
def members (fields : List (RecordField σ)) (levels : Nat) (draft : σ) (s : List Char) :
    Except Fault (σ × List Char) :=
  match _h : stringBody s with
  | .error fault => .error fault
  | .ok (key, rest) =>
      match _h' : member fields levels draft (.ofList key) rest with
      | .error fault => .error fault
      | .ok (draft', rest') =>
          match _h'' : nextKey rest' with
          | .error fault => .error fault
          | .ok (.close rest'') => .ok (draft', rest'')
          | .ok (.entry rest'') => members fields levels draft' rest''
termination_by s.length
decreasing_by
  have := length_of_stringBody _h
  have := length_of_member _h'
  have := length_of_nextKey _h''
  simp only [Next.rest] at this
  omega

theorem length_of_members {fields : List (RecordField σ)} {levels : Nat} {draft draft' : σ}
    {s rest : List Char} (h : members fields levels draft s = .ok (draft', rest)) :
    rest.length < s.length := by
  fun_induction members fields levels draft s <;>
    grind [→ length_of_nextKey, → length_of_stringBody, → length_of_member, Next.rest]

/-- Reads the fields of an array in order, the `index`-th one first, and the closing bracket. -/
def positions (wanted : String) (levels index : Nat) :
    List (RecordField σ) → σ → List Char → Except Fault (σ × List Char)
  | [], draft, s =>
      match closeList s with
      | .error fault => .error fault
      | .ok rest => .ok (draft, rest)
  | field :: fields, draft, s =>
      match if index = 0 then firstItem s else nextItem s with
      | .error fault => .error fault
      | .ok (.close rest) =>
          if field.hasDefault then .ok (draft, rest)
          else .error (.before (.unmet (.tooShort index wanted)) rest)
      | .ok (.entry rest) =>
          match fieldValue field levels draft rest giveUpList with
          | .error fault => .error fault
          | .ok (draft, rest) => positions wanted levels (index + 1) fields draft rest

theorem length_of_positions {wanted : String} {levels : Nat} {fields : List (RecordField σ)} :
    ∀ {index : Nat} {draft draft' : σ} {s rest : List Char},
      positions wanted levels index fields draft s = .ok (draft', rest) →
        rest.length ≤ s.length := by
  induction fields with
  | nil => grind [positions, → length_of_closeList]
  | cons field fields ih =>
      intro index draft draft' s rest h
      simp only [positions] at h
      split at h
      · simp at h
      · rename_i next hnext
        have : next.length ≤ s.length := by
          split at hnext
          · exact length_of_firstItem hnext
          · exact Nat.le_of_lt (length_of_nextItem hnext)
        grind
      · rename_i next hnext
        have : next.length ≤ s.length := by
          split at hnext
          · exact length_of_firstItem hnext
          · exact Nat.le_of_lt (length_of_nextItem hnext)
        grind [→ length_of_fieldValue]

/-- What an array of the fields should be. -/
def wantedItems (R : Record σ α) : String :=
  let count := R.fields.length
  R.title ++ " with " ++ toString count ++ if count = 1 then " element" else " elements"

/-- The record of a draft whose closing character has been read. -/
def conclude (R : Record σ α) (draft : σ) (rest : List Char) : Except Fault (α × List Char) :=
  match R.finish draft with
  | .error complaint => .error (.before (.unmet complaint) rest)
  | .ok x => .ok (x, rest)

theorem eq_of_conclude {R : Record σ α} {draft : σ} {s rest : List Char} {x : α}
    (h : R.conclude draft s = .ok (x, rest)) : rest = s := by
  unfold conclude at h
  grind

/-- Reads a record after its opening brace. -/
def readObject (R : Record σ α) (levels : Nat) (s : List Char) : Except Fault (α × List Char) :=
  match firstKey s with
  | .error fault => .error fault
  | .ok (.close rest) => R.conclude R.empty rest
  | .ok (.entry rest) =>
      match members R.fields levels R.empty rest with
      | .error fault => .error fault
      | .ok (draft, rest) => R.conclude draft rest

theorem length_of_readObject {R : Record σ α} {levels : Nat} {s rest : List Char} {x : α}
    (h : R.readObject levels s = .ok (x, rest)) : rest.length < s.length := by
  unfold readObject at h
  grind [→ length_of_firstKey, → length_of_members, → eq_of_conclude, Next.rest]

/-- Reads a record after its opening bracket. -/
def readList (R : Record σ α) (levels : Nat) (s : List Char) : Except Fault (α × List Char) :=
  match positions R.wantedItems levels 0 R.fields R.empty s with
  | .error fault => .error fault
  | .ok (draft, rest) => R.conclude draft rest

theorem length_of_readList {R : Record σ α} {levels : Nat} {s rest : List Char} {x : α}
    (h : R.readList levels s = .ok (x, rest)) : rest.length ≤ s.length := by
  unfold readList at h
  grind [→ length_of_positions, → eq_of_conclude]

/-- Reads a record in either form, with some levels left for what it holds. -/
def read (R : Record σ α) (levels : Nat) (s : List Char) : Except Fault (α × List Char) :=
  match skipSpace s with
  | [] => .error (.onto .endInValue [])
  | c :: rest =>
      if c = '[' then
        match levels with
        | 0 => .error (.onto .nestedTooDeep (c :: rest))
        | levels + 1 => R.readList levels rest
      else if c = '\x7b' then
        match levels with
        | 0 => .error (.onto .nestedTooDeep (c :: rest))
        | levels + 1 => R.readObject levels rest
      else .error (refuse R.title (c :: rest))

theorem length_of_read {R : Record σ α} {levels : Nat} {s rest : List Char} {x : α}
    (h : R.read levels s = .ok (x, rest)) : rest.length < s.length := by
  unfold read at h
  have := length_skipSpace_le s
  grind [→ length_of_readList, → length_of_readObject]

/-- Reads a record in either form. -/
def decoder (R : Record σ α) : Decoder α :=
  fun levels => ⟨R.read levels, length_of_read⟩

end Record

end DartTriggers.Json
