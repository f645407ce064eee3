import EvpnMetadata.Binary64.Nearest
import EvpnMetadata.Json.Record

/-! # Numerals as binary64 numbers

A numeral keeps as many leading digits as fit in 64 bits, and its remaining digits only shift the
power of ten.  The value is the nearest number to those digits, multiplied or divided by the
nearest number to the power, so a numeral of many digits is rounded more than once.
-/

namespace EvpnMetadata

namespace Numeral

/-- Appends digits to a significand while it stays below two to the sixty-fourth. -/
def absorb (significand : Nat) : List Char → Nat × List Char
  | [] => (significand, [])
  | c :: rest =>
    let next := 10 * significand + (Text.Decimal.digit? c).getD 0
    if next < Nat.pow 2 64 then absorb next rest else (significand, c :: rest)

/-- The significand, and the power of ten that the digits outside it leave. -/
def scaled (n : Numeral) : Nat × Int :=
  let (significand, overflow) := absorb 0 n.whole
  let (significand', dropped) := absorb significand n.fraction
  (significand', (overflow.length : Int) - (n.fraction.length - dropped.length : Nat))

/-- The written exponent, which counts as unbounded from two to the thirty-first on. -/
def writtenExponent (n : Numeral) : Int :=
  match n.exponent with
  | none => 0
  | some (negative, digits) =>
    let size := Text.Decimal.digitsValue digits
    if negative then -size else size

/-- The nearest number to a power of ten. -/
def powerOfTen (k : Nat) : Nat := Binary64.nearest (Nat.pow 10 k) 1

/-- The number without its sign, unless it is too large. -/
def magnitude? (n : Numeral) : Option Nat :=
  let (significand, shift) := n.scaled
  let power := shift + n.writtenExponent
  let start := Binary64.nearest significand 1
  if significand = 0 then some 0
  else if 308 < power then none
  else if 0 ≤ power then
    let product := Binary64.times start (powerOfTen power.toNat)
    if product < Binary64.infinity then some product else none
  else if -308 ≤ power then some (Binary64.divide start (powerOfTen (-power).toNat))
  else if -616 ≤ power then
    some (Binary64.divide (Binary64.divide start (powerOfTen 308)) (powerOfTen (-power - 308).toNat))
  else some 0

def toBinary64? (n : Numeral) : Option Binary64 := n.magnitude?.map (Binary64.ofMagnitude n.negative)

def isInRange (n : Numeral) : Bool := n.magnitude?.isSome

end Numeral

namespace Json

def binary64? : Json → Option Binary64
  | .number n => n.toBinary64?
  | _ => none

end Json

end EvpnMetadata
