/-!
Finite binary numbers of 53 significant bits and their rounded arithmetic. Each operation gives
the number nearest to the exact result, of two equally near ones the even one, and nothing when
the exact result rounds beyond the largest number.
-/

namespace DartTriggers

/-- The number `mantissa * 2 ^ exponent`. Values made by this module have a mantissa below
`2 ^ 53` and an exponent from -1074 to 971. -/
structure Binary64 where
  mantissa : Nat
  exponent : Int
deriving DecidableEq, Repr, Inhabited

namespace Binary64

def zero : Binary64 := ⟨0, -1074⟩

/-- The quotient rounded to the nearest natural number, a half to the even neighbour. -/
def halfEven (num den : Nat) : Nat :=
  let q := num / den
  let r := num % den
  if den < 2 * r ∨ (2 * r = den ∧ q % 2 = 1) then q + 1 else q

/-- A numerator and a denominator of `num / den / 2 ^ e`. -/
def scaled (num den : Nat) (e : Int) : Nat × Nat :=
  (num * Nat.pow 2 (-e).toNat, den * Nat.pow 2 e.toNat)

/-- The exponent that leaves 53 bits before the point of `num / den`, or -1074 if the quotient
is too small for that. -/
def exponentFor (num den : Nat) : Int :=
  let e := max (-1074) ((num.log2 : Int) - den.log2 - 53)
  let (n, d) := scaled num den e
  if Nat.pow 2 53 ≤ n / d then e + 1 else e

/-- The nearest number to `num / den`. -/
def ofQuotient (num den : Nat) : Option Binary64 :=
  if num = 0 then some zero
  else
    let e := exponentFor num den
    let (n, d) := scaled num den e
    let m := halfEven n d
    let rounded : Binary64 := if m = Nat.pow 2 53 then ⟨Nat.pow 2 52, e + 1⟩ else ⟨m, e⟩
    if 971 < rounded.exponent then none else some rounded

def ofNat (n : Nat) : Option Binary64 :=
  ofQuotient n 1

/-- The nearest number to `10 ^ n`. -/
def powTen (n : Nat) : Option Binary64 :=
  ofNat (Nat.pow 10 n)

def mul (a b : Binary64) : Option Binary64 :=
  let (n, d) := scaled (a.mantissa * b.mantissa) 1 (-(a.exponent + b.exponent))
  ofQuotient n d

def div (a b : Binary64) : Option Binary64 :=
  let (n, d) := scaled a.mantissa b.mantissa (b.exponent - a.exponent)
  ofQuotient n d

end Binary64

end DartTriggers
