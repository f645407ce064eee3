/-! # Binary64 numbers

A number of the double format is a sign and a magnitude of 63 bits: eleven of exponent above 52 of
fraction.  Magnitudes below the pattern of infinity are in the order of the values they denote.
-/

namespace EvpnMetadata

structure Binary64 where
  negative : Bool
  magnitude : Nat
  bounded : magnitude < Nat.pow 2 63 := by decide
  deriving DecidableEq, Repr

namespace Binary64

/-- The magnitude of infinity; larger ones denote no number. -/
def infinity : Nat := 0x7FF0000000000000

/-- A magnitude past infinity stands for infinity. -/
def ofMagnitude (negative : Bool) (magnitude : Nat) : Binary64 where
  negative := negative
  magnitude := min magnitude infinity
  bounded := Nat.lt_of_le_of_lt (Nat.min_le_right _ _) (by decide)

def notANumber (negative : Bool) : Binary64 where
  negative := negative
  magnitude := 0x7FF8000000000000

def infinite (negative : Bool) : Binary64 := ofMagnitude negative infinity

def isNaN (x : Binary64) : Bool := infinity < x.magnitude

def isFinite (x : Binary64) : Bool := x.magnitude < infinity

def isZero (x : Binary64) : Bool := x.magnitude = 0

/-- The 64 bits, with the sign on top. -/
def toBits (x : Binary64) : Nat := (if x.negative then Nat.pow 2 63 else 0) + x.magnitude

/-- The integer that a finite magnitude denotes in units of its last place. -/
def significand (magnitude : Nat) : Nat :=
  if magnitude / Nat.pow 2 52 = 0 then magnitude % Nat.pow 2 52
  else Nat.pow 2 52 + magnitude % Nat.pow 2 52

/-- The power of two of the unit in the last place. -/
def unitPower (magnitude : Nat) : Int := (max (magnitude / Nat.pow 2 52) 1 : Nat) - 1075

/-- The numerator of a finite magnitude over a power of two. -/
def numerator (magnitude : Nat) : Nat := significand magnitude * Nat.pow 2 (unitPower magnitude).toNat

def denominator (magnitude : Nat) : Nat := Nat.pow 2 (-unitPower magnitude).toNat

end Binary64

end EvpnMetadata
