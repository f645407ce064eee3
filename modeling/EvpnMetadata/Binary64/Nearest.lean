import EvpnMetadata.Binary64

/-! # Rounding to the nearest

A fraction is rounded to the nearest integer, and to the nearest binary64 magnitude, with an exact
half going to the even neighbour.
-/

namespace EvpnMetadata.Binary64

/-- The nearest integer to a fraction, the even one at an exact half. -/
def roundHalfEven (num den : Nat) : Nat :=
  let quotient := num / den
  let twice := 2 * (num % den)
  if den < twice ∨ (twice = den ∧ quotient % 2 = 1) then quotient + 1 else quotient

/-- The integer `k` with `2 ^ k ≤ num / den < 2 ^ (k + 1)`, for a positive fraction. -/
def binaryOrder (num den : Nat) : Int :=
  let guess : Int := (num.log2 : Int) - den.log2
  if num * Nat.pow 2 (-guess).toNat < den * Nat.pow 2 guess.toNat then guess - 1 else guess

/-- The nearest magnitude to a fraction; one too large for the format becomes infinity. -/
def nearest (num den : Nat) : Nat :=
  if num = 0 then 0
  else
    let unit := max (binaryOrder num den - 52) (-1074)
    let count := roundHalfEven (num * Nat.pow 2 (-unit).toNat) (den * Nat.pow 2 unit.toNat)
    min ((unit + 1074).toNat * Nat.pow 2 52 + count) infinity

/-- The nearest magnitude to `digits * 10 ^ power`.  Powers that leave the format on either side are
not multiplied out. -/
def ofDecimal (digits : Nat) (power : Int) : Nat :=
  let order := (Nat.toDigits 10 digits).length + power
  if digits = 0 ∨ order < -330 then 0
  else if 310 < order then infinity
  else nearest (digits * Nat.pow 10 power.toNat) (Nat.pow 10 (-power).toNat)

/-- The nearest number to an integer. -/
def ofInt (n : Int) : Binary64 := ofMagnitude (n < 0) (nearest n.natAbs 1)

def ofNat (n : Nat) : Binary64 := ofInt n

/-- The rounded sum of two finite magnitudes. -/
def plus (a b : Nat) : Nat :=
  nearest (numerator a * denominator b + numerator b * denominator a)
    (denominator a * denominator b)

/-- The rounded product of two finite magnitudes. -/
def times (a b : Nat) : Nat :=
  nearest (numerator a * numerator b) (denominator a * denominator b)

/-- The rounded quotient of two finite magnitudes, the second one positive. -/
def divide (a b : Nat) : Nat :=
  nearest (numerator a * denominator b) (denominator a * numerator b)

end EvpnMetadata.Binary64
