import EvpnMetadata.Binary64.Nearest

/-! # The shortest decimal text

A finite number is written with the fewest decimal digits that read back as it, the nearest of
those to the number, and without an exponent however large or small it is.
-/

namespace EvpnMetadata.Binary64

/-- A decimal `digits * 10 ^ power`. -/
structure Decimal where
  digits : Nat
  power : Int
  deriving DecidableEq, Repr

/-- The integer `k` with `10 ^ k ≤ num / den < 10 ^ (k + 1)`, for a positive fraction. -/
def decimalOrder (num den : Nat) : Int :=
  if den ≤ num then ((Nat.toDigits 10 (num / den)).length : Int) - 1
  else
    let ceiling := (den + num - 1) / num
    Int.negOfNat (if ceiling = 1 then 0 else (Nat.toDigits 10 (ceiling - 1)).length)

/-- A decimal denotes `num / den`, where a negative power moves into the denominator. -/
def Decimal.fraction (d : Decimal) : Nat × Nat :=
  (d.digits * Nat.pow 10 d.power.toNat, Nat.pow 10 (-d.power).toNat)

/-- A decimal reads back as a magnitude when the magnitude is the nearest one to it. -/
def Decimal.readsAs (d : Decimal) (magnitude : Nat) : Bool :=
  nearest d.fraction.1 d.fraction.2 = magnitude

/-- The better of the two neighbours of a magnitude on the grid of multiples of `10 ^ power`. -/
def gridCandidate? (magnitude : Nat) (power : Int) : Option Decimal :=
  let num := numerator magnitude * Nat.pow 10 (-power).toNat
  let den := denominator magnitude * Nat.pow 10 power.toNat
  let below : Decimal := ⟨num / den, power⟩
  let above : Decimal := ⟨num / den + 1, power⟩
  let upFirst := den ≤ 2 * (num % den)
  let (first, second) := if upFirst then (above, below) else (below, above)
  if first.readsAs magnitude then some first
  else if second.readsAs magnitude then some second
  else none

/-- Tries grids from the coarsest on; seventeen digits always read back. -/
def shortestFrom (magnitude : Nat) (order : Int) : Nat → Nat → Decimal
  | 0, count => ⟨numerator magnitude / denominator magnitude, count⟩
  | fuel + 1, count =>
    match gridCandidate? magnitude (order + 1 - count) with
    | some decimal => decimal
    | none => shortestFrom magnitude order fuel (count + 1)

/-- Moves a last digit zero into the power. -/
def Decimal.trimmed (d : Decimal) : Decimal :=
  if d.digits % 10 = 0 then ⟨d.digits / 10, d.power + 1⟩ else d

/-- The shortest decimal of a positive finite magnitude.  It ends in a zero only where the upper
neighbour on the first grid is the next power of ten. -/
def shortest (magnitude : Nat) : Decimal :=
  let order := decimalOrder (numerator magnitude) (denominator magnitude)
  (shortestFrom magnitude order 17 1).trimmed

/-- Writes a decimal with a point where it has a fraction, and zeros where it has no digits. -/
def Decimal.positional (d : Decimal) : List Char :=
  let digits := Nat.toDigits 10 d.digits
  if 0 ≤ d.power then digits ++ List.replicate d.power.toNat '0'
  else
    let places := (-d.power).toNat
    if places < digits.length then
      digits.take (digits.length - places) ++ '.' :: digits.drop (digits.length - places)
    else '0' :: '.' :: List.replicate (places - digits.length) '0' ++ digits

def text (x : Binary64) : String :=
  if x.isNaN then "NaN"
  else
    let size := if x.isFinite then
        if x.isZero then ['0'] else (shortest x.magnitude).positional
      else ['i', 'n', 'f']
    String.ofList (if x.negative then '-' :: size else size)

end EvpnMetadata.Binary64
