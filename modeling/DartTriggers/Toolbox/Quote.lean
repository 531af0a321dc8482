import DartTriggers.Text.Octets
/-!
Names in messages. A name is put between single quotes; what cannot be shown in them is written as
numbers, and a name with single quotes in it is put between double ones where that is possible.
-/

namespace DartTriggers.Toolbox

/-- Whether an octet can be shown as it is. -/
def isShowable (c : Char) : Bool :=
  ' ' ≤ c && c ≤ '~'

/-- Three octal digits. -/
def octalDigits (c : Char) : List Char :=
  let digit (n : Nat) : Char := Char.ofNat (48 + n % 8)
  [digit (c.toNat / 64), digit (c.toNat / 8), digit c.toNat]

/-- The controls that have a letter, with the letter. -/
def controlLetters : List (Char × Char) :=
  [('\x07', 'a'), ('\x08', 'b'), ('\x0c', 'f'), ('\n', 'n'), ('\r', 'r'), ('\t', 't'),
   ('\x0b', 'v')]

/-- What is left of a name, with the closing quote. Characters that cannot be shown are `escaped`
between quotes of their own. -/
def quoteFrom (escaped : Bool) : List Char → List Char
  | [] => ['\'']
  | c :: rest =>
      if c = '\'' then '\'' :: '\\' :: '\'' :: '\'' :: quoteFrom false rest
      else if isShowable c then
        (if escaped then ['\'', '\''] else []) ++ c :: quoteFrom false rest
      else
        let code := match controlLetters.lookup c with
          | some letter => [letter]
          | none => octalDigits c
        (if escaped then [] else ['\'', '$', '\'']) ++ '\\' :: code ++ quoteFrom true rest

/-- A name between quotes. -/
def quotedName (name : String) : String :=
  let s := name.toList
  let plain := s.all isShowable
  if plain && s.contains '\'' && !s.any fun c => c = '"' || c = '$' || c = '\x60' || c = '\\' then
    "\"" ++ name ++ "\""
  else .ofList ('\'' :: quoteFrom false s)

/-- A character of a word between quotes; what cannot be shown is written as an escape. -/
def escapedChar (c : Char) : List Char :=
  if c = '\'' || c = '\\' then ['\\', c]
  else if isShowable c then [c]
  else
    match controlLetters.lookup c with
    | some letter => ['\\', letter]
    | none => '\\' :: octalDigits c

/-- A word that is no name of a file, between quotes. -/
def quotedWord (word : String) : String :=
  .ofList ('\'' :: word.toList.flatMap escapedChar ++ ['\''])

/-- The characters for which a name has to be put between quotes. -/
def unsafeChars : List Char :=
  " !\"$&'()*;<=>?[\\^\x60|".toList

/-- A name as it is where that is clear, and between quotes elsewhere. -/
def shownName (name : String) : String :=
  let s := name.toList
  let first := s.head?.any fun c => c = '#' || c = '~'
  let brace := name = "\x7b" || name = "\x7d"
  if s.isEmpty || first || brace || s.any fun c => !isShowable c || unsafeChars.contains c then
    quotedName name
  else name

end DartTriggers.Toolbox
