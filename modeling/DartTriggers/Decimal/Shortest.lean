import DartTriggers.Decimal.Binary64
/-!
The shortest decimal that reads back to a binary number. The reals that round to a number form
an interval around it, ends included when its mantissa is even. For one digit, two digits and so
on, the two neighbours of the number on that decimal grid are tried; the first grid with a hit
wins, of two hits the nearer one, of two equally near ones the even one.
-/

namespace DartTriggers

/-- The number `digits * 10 ^ exponent`. -/
structure Decimal where
  digits : Nat
  exponent : Int
deriving DecidableEq, Repr, Inhabited

namespace Decimal

/-- Compares `a * 10 ^ p` with `b * 2 ^ q`. -/
def compareBinary (a : Nat) (p : Int) (b : Nat) (q : Int) : Ordering :=
  compare (a * Nat.pow 10 p.toNat * Nat.pow 2 (-q).toNat)
    (b * Nat.pow 2 q.toNat * Nat.pow 10 (-p).toNat)

/-- The whole part of `b * 2 ^ q / 10 ^ p`. -/
def floorBinary (b : Nat) (q p : Int) : Nat :=
  (b * Nat.pow 2 q.toNat * Nat.pow 10 (-p).toNat) / (Nat.pow 2 (-q).toNat * Nat.pow 10 p.toNat)

/-- Whether `a * 10 ^ p` rounds to `x`. Distances are counted in quarters of the last bit of `x`;
below a power of two the neighbour is nearer by half. -/
def roundsTo (x : Binary64) (a : Nat) (p : Int) : Bool :=
  let q := x.exponent - 2
  let low := if x.mantissa = Nat.pow 2 52 ∧ -1074 < x.exponent then 4 * x.mantissa - 1
    else 4 * x.mantissa - 2
  let fromLow := compareBinary a p low q
  let fromHigh := compareBinary a p (4 * x.mantissa + 2) q
  if x.mantissa % 2 = 0 then fromLow != .lt && fromHigh != .gt
  else fromLow == .gt && fromHigh == .lt

/-- The grid neighbour of `x` at `10 ^ p` that rounds to `x` and is nearest to it. -/
def onGrid (x : Binary64) (p : Int) : Option Decimal :=
  let below := floorBinary x.mantissa x.exponent p
  let above := below + 1
  match roundsTo x below p, roundsTo x above p with
  | false, false => none
  | true, false => some ⟨below, p⟩
  | false, true => some ⟨above, p⟩
  | true, true =>
      match compareBinary (below + above) p (2 * x.mantissa) x.exponent with
      | .gt => some ⟨below, p⟩
      | .lt => some ⟨above, p⟩
      | .eq => some (if below % 2 = 0 then ⟨below, p⟩ else ⟨above, p⟩)

/-- The least exponent from `k` on with `x` times that power of ten at least one, looked for in
`room` steps. -/
def liftToOne (x : Binary64) (k : Nat) : Nat → Nat
  | 0 => k
  | room + 1 => if floorBinary x.mantissa x.exponent (-k) = 0 then liftToOne x (k + 1) room else k

/-- The power of ten of the leading digit of a positive number. -/
def leadingPower (x : Binary64) : Int :=
  let whole := floorBinary x.mantissa x.exponent 0
  if whole = 0 then -(liftToOne x 1 400 : Int)
  else ((Nat.toDigits 10 whole).length : Int) - 1

/-- Tries the grids of `count`, `count + 1` and so on digits. -/
def search (x : Binary64) (top : Int) : (room count : Nat) → Decimal
  | 0, _ => ⟨x.mantissa, 0⟩
  | room + 1, count =>
      match onGrid x (top - count + 1) with
      | some d => d
      | none => search x top room (count + 1)

/-- Drops the zeros at the end of the digits. -/
def strip (digits : Nat) (exponent : Int) : Nat → Decimal
  | 0 => ⟨digits, exponent⟩
  | room + 1 =>
      if digits % 10 = 0 ∧ digits ≠ 0 then strip (digits / 10) (exponent + 1) room
      else ⟨digits, exponent⟩

/-- The shortest decimal that reads back to `x`; seventeen digits always do. -/
def shortest (x : Binary64) : Decimal :=
  if x.mantissa = 0 then ⟨0, 0⟩
  else
    let found := search x (leadingPower x) 17 1
    strip found.digits found.exponent 20

end Decimal

end DartTriggers
