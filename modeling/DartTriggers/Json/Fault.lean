import DartTriggers.Json.Render
/-!
What can be wrong with a document, and where. A fault counts the bytes that are left after it,
so a reader of the rest of a text needs no position of its own; line and column are worked out
once, from the whole text.
-/

namespace DartTriggers.Json

/-- The kind of value met where another one was wanted. -/
inductive Found where
  | null
  | bool (value : Bool)
  | number (value : JsonNumber)
  | string (value : String)
  | sequence
  | map
deriving DecidableEq, Repr

/-- A value that is well written but does not have the wanted form. -/
inductive Complaint where
  | missingField (key : String)
  | repeatedField (key : String)
  /-- An array with too few items; `wanted` says how many there should be. -/
  | tooShort (length : Nat) (wanted : String)
  | unknownName (name : String) (known : List String)
  /-- An array or object, in compact form, as the default of an attribute. -/
  | structuredDefault (found : String)
deriving DecidableEq, Repr

inductive Cause where
  | endInValue
  | endInList
  | endInObject
  | endInString
  | expectedValue
  | expectedLiteral
  | expectedColon
  | expectedListEnd
  | expectedObjectEnd
  | expectedKey
  | trailingComma
  | trailingCharacters
  | nestedTooDeep
  | malformedNumber
  | numberTooLarge
  | unknownEscape
  | loneSurrogate
  | unfinishedSurrogate
  | controlCharacter
  | wrongKind (found : Found) (wanted : String)
  | unmet (complaint : Complaint)
deriving DecidableEq, Repr

namespace Found

def description : Found → String
  | .null => "null"
  | .bool b => "boolean `" ++ .ofList (boolChars b) ++ "`"
  | .number (.integer n) => "integer `" ++ .ofList (JsonNumber.integer n).chars ++ "`"
  | .number (.binary s m) => "floating point `" ++ .ofList (JsonNumber.binary s m).chars ++ "`"
  | .string s => "string " ++ Text.quoted s
  | .sequence => "sequence"
  | .map => "map"

end Found

namespace Complaint

/-- The names a value may have, as a message lists them. -/
def listNames (names : List String) : String :=
  let ticked := names.map fun name => "`" ++ name ++ "`"
  match ticked with
  | [a, b] => a ++ " or " ++ b
  | _ => "one of " ++ ", ".intercalate ticked

def message : Complaint → String
  | .missingField key => "missing field `" ++ key ++ "`"
  | .repeatedField key => "duplicate field `" ++ key ++ "`"
  | .tooShort length wanted => "invalid length " ++ toString length ++ ", expected " ++ wanted
  | .unknownName name known =>
      "unknown variant `" ++ name ++ "`, expected " ++ listNames known
  | .structuredDefault found => "default must be a string, number or boolean, found " ++ found

end Complaint

namespace Cause

def message : Cause → String
  | .endInValue => "EOF while parsing a value"
  | .endInList => "EOF while parsing a list"
  | .endInObject => "EOF while parsing an object"
  | .endInString => "EOF while parsing a string"
  | .expectedValue => "expected value"
  | .expectedLiteral => "expected ident"
  | .expectedColon => "expected `:`"
  | .expectedListEnd => "expected `,` or `]`"
  | .expectedObjectEnd => "expected `,` or `\x7d`"
  | .expectedKey => "key must be a string"
  | .trailingComma => "trailing comma"
  | .trailingCharacters => "trailing characters"
  | .nestedTooDeep => "recursion limit exceeded"
  | .malformedNumber => "invalid number"
  | .numberTooLarge => "number out of range"
  | .unknownEscape => "invalid escape"
  | .loneSurrogate => "lone leading surrogate in hex escape"
  | .unfinishedSurrogate => "unexpected end of hex escape"
  | .controlCharacter => "control character (\\u0000-\\u001F) found while parsing a string"
  | .wrongKind found wanted =>
      "invalid type: " ++ found.description ++ ", expected " ++ wanted
  | .unmet complaint => complaint.message

end Cause

/-- The number of bytes of a text. -/
def byteCount : List Char → Nat
  | [] => 0
  | c :: rest => c.utf8Size + byteCount rest

/-- A cause, and the number of bytes left after the place it is reported at. -/
structure Fault where
  cause : Cause
  left : Nat
deriving DecidableEq, Repr

namespace Fault

/-- A fault reported before `rest`. -/
def before (cause : Cause) (rest : List Char) : Fault :=
  ⟨cause, byteCount rest⟩

/-- A fault reported after the first byte of `rest`, or at the end of the text. -/
def onto (cause : Cause) (rest : List Char) : Fault :=
  ⟨cause, byteCount rest - 1⟩

end Fault

/-- A place in a text: the line, from one, and how many bytes of it come before. -/
structure Place where
  line : Nat
  column : Nat
deriving DecidableEq, Repr

/-- The place after some bytes, counted on from another place. -/
def Place.after (place : Place) : Bytes → Place
  | [] => place
  | b :: rest =>
      if b = 10 then Place.after ⟨place.line + 1, 0⟩ rest
      else Place.after ⟨place.line, place.column + 1⟩ rest

/-- A fault with the place it is reported at. -/
structure ReadError where
  cause : Cause
  place : Place
deriving DecidableEq, Repr

namespace ReadError

/-- Locates a fault in the whole text. -/
def locate (source : String) (fault : Fault) : ReadError :=
  let bytes := Bytes.ofString source
  ⟨fault.cause, Place.after ⟨1, 0⟩ (bytes.take (bytes.length - fault.left))⟩

def message (e : ReadError) : String :=
  e.cause.message ++ " at line " ++ toString e.place.line ++ " column " ++ toString e.place.column

end ReadError

end DartTriggers.Json
