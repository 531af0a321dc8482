/-!
Byte sequences that are usually, but not always, UTF-8 text: the names and paths of files.
`Bytes.text?` reads them strictly, `Bytes.display` puts a replacement character for every part
that is not text.
-/

namespace DartTriggers

/-- A sequence of bytes, such as the name of a file. -/
abbrev Bytes := List UInt8

namespace Bytes

/-- The UTF-8 form of a text. -/
def ofString (s : String) : Bytes :=
  s.toByteArray.data.toList

/-- The text that the bytes are the UTF-8 form of, if there is one. -/
def text? (b : Bytes) : Option String :=
  String.fromUTF8? ⟨b.toArray⟩

/-- A maximal part of a byte sequence: one character, or bytes that start no character. -/
inductive Piece where
  | char (c : Char)
  | stray (bytes : Bytes)

/-- A character of which some bytes have been seen. -/
structure Partial where
  /-- The bytes seen so far. -/
  seen : Bytes
  /-- The bits that they carry. -/
  value : Nat
  /-- How many bytes are still to come. -/
  missing : Nat
  /-- The range that the next byte has to lie in. -/
  low : Nat
  high : Nat

/-- What a byte means at the start of a character. The narrowed ranges of the second byte shut
out overlong forms, surrogates and code points above the last one. -/
def begin (b : UInt8) : Piece ⊕ Partial :=
  let n := b.toNat
  let lead (bits missing low high : Nat) : Piece ⊕ Partial := .inr ⟨[b], bits, missing, low, high⟩
  if n < 0x80 then .inl (.char (Char.ofNat n))
  else if n < 0xC2 then .inl (.stray [b])
  else if n < 0xE0 then lead (n - 0xC0) 1 0x80 0xBF
  else if n = 0xE0 then lead 0 2 0xA0 0xBF
  else if n = 0xED then lead 0xD 2 0x80 0x9F
  else if n < 0xF0 then lead (n - 0xE0) 2 0x80 0xBF
  else if n = 0xF0 then lead 0 3 0x90 0xBF
  else if n < 0xF4 then lead (n - 0xF0) 3 0x80 0xBF
  else if n = 0xF4 then lead 4 3 0x80 0x8F
  else .inl (.stray [b])

/-- Cuts the bytes into pieces, with an unfinished character carried along. -/
def piecesFrom : Option Partial → Bytes → List Piece
  | none, [] => []
  | some p, [] => [.stray p.seen]
  | none, b :: r =>
      match begin b with
      | .inl piece => piece :: piecesFrom none r
      | .inr p => piecesFrom (some p) r
  | some p, b :: r =>
      let n := b.toNat
      if p.low ≤ n ∧ n ≤ p.high then
        let value := p.value * 64 + (n - 0x80)
        if p.missing ≤ 1 then .char (Char.ofNat value) :: piecesFrom none r
        else piecesFrom (some ⟨p.seen ++ [b], value, p.missing - 1, 0x80, 0xBF⟩) r
      else
        .stray p.seen ::
          match begin b with
          | .inl piece => piece :: piecesFrom none r
          | .inr q => piecesFrom (some q) r

/-- The characters and the stray parts of the bytes, in order. -/
def pieces (b : Bytes) : List Piece :=
  piecesFrom none b

/-- The bytes as text to show, with U+FFFD for each stray part. -/
def display (b : Bytes) : String :=
  match b.text? with
  | some s => s
  | none => .ofList (b.pieces.map fun
      | .char c => c
      | .stray _ => '\uFFFD')

/-- Byte order, the first difference decides and a proper beginning comes first. -/
def ble : Bytes → Bytes → Bool
  | [], _ => true
  | _ :: _, [] => false
  | a :: as, b :: bs => a < b || (a == b && ble as bs)

end Bytes

end DartTriggers
