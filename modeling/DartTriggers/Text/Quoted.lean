import DartTriggers.Text.Bytes
import DartTriggers.Text.Shown
/-!
Texts in double quotes, as messages show them: quotes, backslashes and the usual controls have
short escapes, any other character that would not show is written by its code point, and a byte
that belongs to no character is written in two upper-case digits.
-/

namespace DartTriggers.Text

/-- The digits of a number in base sixteen, lower case. -/
def hexDigits (n : Nat) : List Char :=
  Nat.toDigits 16 n

/-- A character inside quotes. -/
def quotedChar (c : Char) : List Char :=
  if c = '"' then ['\\', '"']
  else if c = '\\' then ['\\', '\\']
  else if c = '\n' then ['\\', 'n']
  else if c = '\r' then ['\\', 'r']
  else if c = '\t' then ['\\', 't']
  else if c.toNat = 0 then ['\\', '0']
  else if isShown c then [c]
  else ['\\', 'u', '\x7b'] ++ hexDigits c.toNat ++ ['\x7d']

/-- A byte inside quotes. -/
def quotedByte (b : UInt8) : List Char :=
  let digits := (hexDigits b.toNat).map Char.toUpper
  ['\\', 'x'] ++ List.replicate (2 - digits.length) '0' ++ digits

/-- A text in quotes. -/
def quoted (s : String) : String :=
  .ofList ('"' :: s.toList.flatMap quotedChar ++ ['"'])

/-- Bytes in quotes. -/
def quotedBytes (b : Bytes) : String :=
  let inside := b.pieces.flatMap fun
    | .char c => quotedChar c
    | .stray bytes => bytes.flatMap quotedByte
  .ofList ('"' :: inside ++ ['"'])

end DartTriggers.Text
