import EvpnMetadata.Binary64.Nearest

/-! # Time spans

A number of seconds is taken for the nearest whole number of nanoseconds, with an exact half going
to the even one.
-/

namespace EvpnMetadata

/-- A span of whole seconds and nanoseconds. -/
structure TimeSpan where
  seconds : Nat
  nanoseconds : Nat
  deriving DecidableEq, Repr

namespace TimeSpan

def nanosecondsPerSecond : Nat := 1000000000

def ofNanoseconds (total : Nat) : TimeSpan :=
  ⟨total / nanosecondsPerSecond, total % nanosecondsPerSecond⟩

def toNanoseconds (span : TimeSpan) : Nat :=
  span.seconds * nanosecondsPerSecond + span.nanoseconds

/-- A span as a number of seconds: each part is rounded on its own, and then their sum. -/
def inSeconds (span : TimeSpan) : Binary64 :=
  let fraction := Binary64.divide (Binary64.nearest span.nanoseconds 1)
    (Binary64.nearest nanosecondsPerSecond 1)
  .ofMagnitude false (Binary64.plus (Binary64.nearest span.seconds 1) fraction)

theorem toNanoseconds_ofNanoseconds (total : Nat) : (ofNanoseconds total).toNanoseconds = total := by
  simp only [ofNanoseconds, toNanoseconds]
  rw [Nat.mul_comm]
  exact Nat.div_add_mod total nanosecondsPerSecond

end TimeSpan

namespace Binary64

/-- The number of nanoseconds nearest to a magnitude of seconds. -/
def nanoseconds (magnitude : Nat) : Nat :=
  roundHalfEven (numerator magnitude * TimeSpan.nanosecondsPerSecond) (denominator magnitude)

/-- The whole seconds of a number fit into 64 bits. -/
def isSpanLength (x : Binary64) : Bool :=
  x.isFinite && numerator x.magnitude < Nat.pow 2 64 * denominator x.magnitude

/-- A number of seconds as a span, unless it is below zero, too large or not a number. -/
def timeSpan? (x : Binary64) : Option TimeSpan :=
  if x.isSpanLength && (!x.negative || x.isZero) then
    some (.ofNanoseconds (nanoseconds x.magnitude))
  else none

end Binary64

end EvpnMetadata
