import DartTriggers.Json.Lexeme
/-!
Numbers as they are written, and the values they stand for. An integer that fits 64 bits keeps
its value. Any other number is a binary number made in one pass: as many digits as fit 64 bits
form the significand, which is then multiplied or divided by a power of ten.
-/

namespace DartTriggers.Json

/-- A number as written. -/
structure Numeral where
  negative : Bool
  whole : List Nat
  /-- The digits after the point, none if there is no point. -/
  fraction : List Nat
  /-- Whether the exponent is negative, and its digits. -/
  exponent : Option (Bool × List Nat)
deriving DecidableEq, Repr

namespace Numeral

def isDigit (c : Char) : Bool :=
  '0' ≤ c && c ≤ '9'

def digitValue (c : Char) : Nat :=
  c.toNat - 48

/-- The digits at the front. -/
def digits (s : List Char) : List Nat :=
  (s.takeWhile isDigit).map digitValue

/-- What follows the digits at the front. -/
def afterDigits (s : List Char) : List Char :=
  s.dropWhile isDigit

theorem length_afterDigits_le (s : List Char) : (afterDigits s).length ≤ s.length :=
  (List.dropWhile_sublist isDigit).length_le

/-- Reads the digits before the point. A zero stands alone. `atEnd` is the cause to report where
the text ends too early. -/
def wholePart (atEnd : Cause) : List Char → Except Fault (List Nat × List Char)
  | [] => .error (.before atEnd [])
  | c :: rest =>
      if c = '0' then
        if (digits rest).isEmpty then .ok ([0], rest) else .error (.onto .malformedNumber rest)
      else if isDigit c then .ok (digitValue c :: digits rest, afterDigits rest)
      else .error (.onto .malformedNumber (c :: rest))

/-- Reads a point and the digits after it, if there is a point. -/
def fractionPart (atEnd : Cause) : List Char → Except Fault (List Nat × List Char)
  | [] => .ok ([], [])
  | c :: rest =>
      if c = '.' then
        if (digits rest).isEmpty then
          if rest.isEmpty then .error (.before atEnd []) else .error (.onto .malformedNumber rest)
        else .ok (digits rest, afterDigits rest)
      else .ok ([], c :: rest)

/-- Reads the sign of an exponent. -/
def exponentSign : List Char → Bool × List Char
  | [] => (false, [])
  | c :: rest =>
      if c = '-' then (true, rest)
      else if c = '+' then (false, rest)
      else (false, c :: rest)

/-- Reads an exponent, if there is one. -/
def exponentPart (atEnd : Cause) :
    List Char → Except Fault (Option (Bool × List Nat) × List Char)
  | [] => .ok (none, [])
  | c :: rest =>
      if c = 'e' ∨ c = 'E' then
        let (negative, rest) := exponentSign rest
        if (digits rest).isEmpty then
          if rest.isEmpty then .error (.before atEnd []) else .error (.onto .malformedNumber rest)
        else .ok (some (negative, digits rest), afterDigits rest)
      else .ok (none, c :: rest)

/-- Reads a number from its first digit on. -/
def read (atEnd : Cause) (negative : Bool) (s : List Char) : Except Fault (Numeral × List Char) :=
  match wholePart atEnd s with
  | .error fault => .error fault
  | .ok (whole, s) =>
      match fractionPart atEnd s with
      | .error fault => .error fault
      | .ok (fraction, s) =>
          match exponentPart atEnd s with
          | .error fault => .error fault
          | .ok (exponent, s) => .ok (⟨negative, whole, fraction, exponent⟩, s)

theorem length_of_wholePart {atEnd : Cause} {s rest : List Char} {ds : List Nat}
    (h : wholePart atEnd s = .ok (ds, rest)) : rest.length < s.length := by
  unfold wholePart at h
  grind [length_afterDigits_le]

theorem length_of_fractionPart {atEnd : Cause} {s rest : List Char} {ds : List Nat}
    (h : fractionPart atEnd s = .ok (ds, rest)) : rest.length ≤ s.length := by
  unfold fractionPart at h
  grind [length_afterDigits_le]

theorem length_exponentSign_le (s : List Char) : (exponentSign s).2.length ≤ s.length := by
  unfold exponentSign
  grind

theorem length_of_exponentPart {atEnd : Cause} {s rest : List Char}
    {e : Option (Bool × List Nat)} (h : exponentPart atEnd s = .ok (e, rest)) :
    rest.length ≤ s.length := by
  cases s with
  | nil => simp_all [exponentPart]
  | cons c s =>
      have := length_exponentSign_le s
      have := length_afterDigits_le (exponentSign s).2
      simp only [exponentPart] at h
      grind

theorem length_of_read {atEnd : Cause} {negative : Bool} {s rest : List Char} {n : Numeral}
    (h : read atEnd negative s = .ok (n, rest)) : rest.length < s.length := by
  unfold read at h
  grind [→ length_of_wholePart, → length_of_fractionPart, → length_of_exponentPart]

/-- Takes digits into a number below `2 ^ 64`, as long as they fit; gives the number and the
digits that are left. -/
def gather : Nat → List Nat → Nat × List Nat
  | n, [] => (n, [])
  | n, d :: ds => if n * 10 + d < Nat.pow 2 64 then gather (n * 10 + d) ds else (n, d :: ds)

/-- Takes the digits of an exponent; if they leave the range of 32 signed bits, gives the digits
after the first one that does. -/
def gatherExponent : Nat → List Nat → Nat ⊕ List Nat
  | n, [] => .inl n
  | n, d :: ds => if n * 10 + d < Nat.pow 2 31 then gatherExponent (n * 10 + d) ds else .inr ds

/-- Divides by `10 ^ 308`. -/
def stepDown (x : Binary64) : Option Binary64 :=
  (Binary64.powTen 308).bind x.div

/-- Divides by `10 ^ 308` a number of times, or until nothing is left. -/
def stepsDown : Nat → Binary64 → Option Binary64
  | 0, x => some x
  | steps + 1, x => if x.mantissa = 0 then some x else (stepDown x).bind (stepsDown steps)

/-- Multiplies or divides by one power of ten, for powers from -308 to 308. -/
def scaleOnce (x : Binary64) (power : Int) : Option Binary64 :=
  (Binary64.powTen power.natAbs).bind fun ten => if 0 ≤ power then x.mul ten else x.div ten

/-- Multiplies by a power of ten; one below -308 is reached in steps of that size. -/
def scale (x : Binary64) (power : Int) : Option Binary64 :=
  if power.natAbs ≤ 308 then scaleOnce x power
  else if x.mantissa = 0 then some x
  else if 0 ≤ power then none
  else
    let steps := (power.natAbs - 1) / 308
    (stepsDown steps x).bind fun y => scaleOnce y (power + 308 * steps)

/-- The binary number of a significand and a power of ten. -/
def magnitude (significand : Nat) (power : Int) : Option Binary64 :=
  (Binary64.ofNat significand).bind fun x => scale x power

/-- The value of a number that stands before `rest`. -/
def value (n : Numeral) (rest : List Char) : Except Fault JsonNumber :=
  let (significand, excess) := gather 0 n.whole
  if excess.isEmpty ∧ n.fraction.isEmpty ∧ n.exponent.isNone then
    if !n.negative then .ok (.integer significand)
    else if 0 < significand ∧ significand ≤ Nat.pow 2 63 then .ok (.integer (-significand))
    else
      match magnitude significand 0 with
      | some x => .ok (.binary true x)
      | none => .error (.before .numberTooLarge rest)
  else
    let (significand, unused) := gather significand n.fraction
    let shift : Int := excess.length - (n.fraction.length - unused.length : Nat)
    let finish (power : Int) : Except Fault JsonNumber :=
      match magnitude significand power with
      | some x => .ok (.binary n.negative x)
      | none => .error (.before .numberTooLarge rest)
    match n.exponent with
    | none => finish shift
    | some (negative, ds) =>
        match gatherExponent 0 ds with
        | .inl e => finish (if negative then shift - e else shift + e)
        | .inr unread =>
            if significand = 0 ∨ negative then .ok (.binary n.negative .zero)
            else .error ⟨.numberTooLarge, unread.length + byteCount rest⟩

end Numeral

/-- Reads a number from its first digit on, a minus sign having been read if `negative`. -/
def readNumber (negative : Bool) (s : List Char) : Except Fault (JsonNumber × List Char) :=
  match Numeral.read .endInValue negative s with
  | .error fault => .error fault
  | .ok (n, rest) =>
      match n.value rest with
      | .error fault => .error fault
      | .ok v => .ok (v, rest)

theorem length_of_readNumber {negative : Bool} {s rest : List Char} {v : JsonNumber}
    (h : readNumber negative s = .ok (v, rest)) : rest.length < s.length := by
  unfold readNumber at h
  grind [→ Numeral.length_of_read]

/-- Passes over a number, whatever its size. -/
def skipNumber (s : List Char) : Except Fault (List Char) :=
  match Numeral.read .malformedNumber false s with
  | .error fault => .error fault
  | .ok (_, rest) => .ok rest

theorem length_of_skipNumber {s rest : List Char} (h : skipNumber s = .ok rest) :
    rest.length < s.length := by
  unfold skipNumber at h
  grind [→ Numeral.length_of_read]

end DartTriggers.Json
