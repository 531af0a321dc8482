import DartTriggers.Json.Basic
import DartTriggers.Text.Quoted
/-!
JSON values as text, in one line without blanks or over several lines with two blanks of indent.
-/

namespace DartTriggers

namespace JsonNumber

/-- Digits and exponent of a decimal laid out for a document: plain with a decimal point from
`1e-5` up to `1e16`, with a signed power of ten beyond. -/
def layout (d : Decimal) : List Char :=
  let digits := Nat.toDigits 10 d.digits
  let top := (digits.length : Int) - 1 + d.exponent
  if d.digits = 0 then ['0', '.', '0']
  else if -5 ≤ top ∧ top < 16 then
    if 0 ≤ d.exponent then digits ++ List.replicate d.exponent.toNat '0' ++ ['.', '0']
    else if 0 ≤ top then digits.take (top.toNat + 1) ++ '.' :: digits.drop (top.toNat + 1)
    else ['0', '.'] ++ List.replicate (-top - 1).toNat '0' ++ digits
  else
    let fraction := if digits.length = 1 then [] else '.' :: digits.drop 1
    digits.take 1 ++ fraction ++ ['e', if 0 ≤ top then '+' else '-'] ++ Nat.toDigits 10 top.natAbs

def chars : JsonNumber → List Char
  | .integer value =>
      if value < 0 then '-' :: Nat.toDigits 10 value.natAbs else Nat.toDigits 10 value.toNat
  | .binary negative magnitude =>
      (if negative then ['-'] else []) ++ layout (Decimal.shortest magnitude)

end JsonNumber

namespace Json

/-- A character inside a string: quotes, backslashes and controls are escaped, all else stands
for itself. -/
def stringChar (c : Char) : List Char :=
  if c = '"' then ['\\', '"']
  else if c = '\\' then ['\\', '\\']
  else if c = '\n' then ['\\', 'n']
  else if c = '\r' then ['\\', 'r']
  else if c = '\t' then ['\\', 't']
  else if c = '\x08' then ['\\', 'b']
  else if c = '\x0c' then ['\\', 'f']
  else if c.toNat < 0x10 then ['\\', 'u', '0', '0', '0'] ++ Text.hexDigits c.toNat
  else if c.toNat < 0x20 then ['\\', 'u', '0', '0'] ++ Text.hexDigits c.toNat
  else [c]

def stringChars (s : String) : List Char :=
  '"' :: s.toList.flatMap stringChar ++ ['"']

def boolChars : Bool → List Char
  | true => ['t', 'r', 'u', 'e']
  | false => ['f', 'a', 'l', 's', 'e']

mutual

/-- One line, no blanks. -/
def compactChars : Json → List Char
  | .null => ['n', 'u', 'l', 'l']
  | .bool b => boolChars b
  | .number n => n.chars
  | .string s => stringChars s
  | .array [] => ['[', ']']
  | .array (item :: rest) => '[' :: compactChars item ++ compactItems rest
  | .object [] => ['\x7b', '\x7d']
  | .object ((key, value) :: rest) =>
      '\x7b' :: stringChars key ++ ':' :: compactChars value ++ compactMembers rest

def compactItems : List Json → List Char
  | [] => [']']
  | item :: rest => ',' :: compactChars item ++ compactItems rest

def compactMembers : List (String × Json) → List Char
  | [] => ['\x7d']
  | (key, value) :: rest =>
      ',' :: stringChars key ++ ':' :: compactChars value ++ compactMembers rest

end

/-- A new line at a depth. -/
def lineAt (depth : Nat) : List Char :=
  '\n' :: List.replicate (2 * depth) ' '

mutual

/-- Every item and member on a line of its own, as it stands at a depth. -/
def prettyChars (depth : Nat) : Json → List Char
  | .null => ['n', 'u', 'l', 'l']
  | .bool b => boolChars b
  | .number n => n.chars
  | .string s => stringChars s
  | .array [] => ['[', ']']
  | .array (item :: rest) =>
      '[' :: lineAt (depth + 1) ++ prettyChars (depth + 1) item ++ prettyItems depth rest
  | .object [] => ['\x7b', '\x7d']
  | .object ((key, value) :: rest) =>
      '\x7b' :: lineAt (depth + 1) ++ stringChars key ++ [':', ' '] ++
        prettyChars (depth + 1) value ++ prettyMembers depth rest

def prettyItems (depth : Nat) : List Json → List Char
  | [] => lineAt depth ++ [']']
  | item :: rest =>
      ',' :: lineAt (depth + 1) ++ prettyChars (depth + 1) item ++ prettyItems depth rest

def prettyMembers (depth : Nat) : List (String × Json) → List Char
  | [] => lineAt depth ++ ['\x7d']
  | (key, value) :: rest =>
      ',' :: lineAt (depth + 1) ++ stringChars key ++ [':', ' '] ++
        prettyChars (depth + 1) value ++ prettyMembers depth rest

end

def compact (value : Json) : String :=
  .ofList value.compactChars

def pretty (value : Json) : String :=
  .ofList (value.prettyChars 0)

/-- The compact text, or the pretty one if asked for. -/
def text (isPretty : Bool) (value : Json) : String :=
  if isPretty then value.pretty else value.compact

end Json

end DartTriggers
