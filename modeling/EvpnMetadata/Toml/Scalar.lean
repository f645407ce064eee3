import EvpnMetadata.Binary64.Nearest
import EvpnMetadata.Text.Digits
import EvpnMetadata.Toml
import EvpnMetadata.Toml.Datetime

/-! # Numbers, truth values and dates

A value that is neither quoted nor bracketed is one run of characters, read as a whole.
-/

namespace EvpnMetadata.Toml

/-- Digits between which single underscores may stand, without them. -/
def digits? (radix : Nat) : List Char → Option (List Char)
  | [] => none
  | [c] => if Text.Hexadecimal.isDigitIn radix c then some [c] else none
  | c :: '_' :: rest =>
    if Text.Hexadecimal.isDigitIn radix c then (digits? radix rest).map (c :: ·) else none
  | c :: rest =>
    if Text.Hexadecimal.isDigitIn radix c then (digits? radix rest).map (c :: ·) else none

/-- Decimal digits without a leading zero, or zero itself. -/
def wholeDigits? (cs : List Char) : Option (List Char) :=
  match digits? 10 cs with
  | some ['0'] => some ['0']
  | some ('0' :: _) => none
  | digits => digits

/-- A sign, which may be left out, and the rest. -/
def splitSign : List Char → Bool × List Char
  | '-' :: rest => (true, rest)
  | '+' :: rest => (false, rest)
  | cs => (false, cs)

/-- An integer: signed in decimals, or without a sign in another radix. -/
def integer? : List Char → Option Int
  | '0' :: 'x' :: rest => (digits? 16 rest).map fun digits => Text.Hexadecimal.valueIn 16 digits
  | '0' :: 'o' :: rest => (digits? 8 rest).map fun digits => Text.Hexadecimal.valueIn 8 digits
  | '0' :: 'b' :: rest => (digits? 2 rest).map fun digits => Text.Hexadecimal.valueIn 2 digits
  | cs => do
    let (negative, rest) := splitSign cs
    let size : Int := Text.Decimal.digitsValue (← wholeDigits? rest)
    return if negative then -size else size

/-- The digits of a fraction, empty where there is no point, and what is left. -/
def fraction? : List Char → Option (List Char × List Char)
  | '.' :: rest => do
    let (run, rest) := rest.span fun c => c.isDigit || c = '_'
    return (← digits? 10 run, rest)
  | cs => some ([], cs)

/-- An exponent, zero where there is none, up to the end. -/
def exponent? : List Char → Option Int
  | [] => some 0
  | c :: rest =>
    if c = 'e' ∨ c = 'E' then do
      let (negative, rest) := splitSign rest
      let size : Int := Text.Decimal.digitsValue (← digits? 10 rest)
      return if negative then -size else size
    else none

/-- The nearest number to a finite literal, if it is within the format. -/
def finiteFloat (negative : Bool) (digits : List Char) (power : Int) : Option Binary64 :=
  let x := Binary64.ofMagnitude negative
    (Binary64.ofDecimal (Text.Decimal.digitsValue digits) power)
  if x.isFinite then some x else none

/-- A float, with a value or without one. -/
def float? (cs : List Char) : Option (Option Binary64) := do
  let (negative, rest) := splitSign cs
  match rest with
  | ['i', 'n', 'f'] => return some (.infinite negative)
  | ['n', 'a', 'n'] => return some (.notANumber negative)
  | rest =>
    let (run, rest) := rest.span fun c => c.isDigit || c = '_'
    let whole ← wholeDigits? run
    let (fraction, rest) ← fraction? rest
    let exponent ← exponent? rest
    return finiteFloat negative (whole ++ fraction) (exponent - fraction.length)

/-- The value of a run of characters. -/
def scalar? (run : List Char) : Option Toml :=
  match run with
  | ['t', 'r', 'u', 'e'] => some (.bool true)
  | ['f', 'a', 'l', 's', 'e'] => some (.bool false)
  | run =>
    match integer? run with
    | some value => some (.integer value)
    | none =>
      match float? run with
      | some value => some (.float value)
      | none => if Datetime.isDatetime run then some (.datetime (String.ofList run)) else none

/-- The characters of which such a run is made. -/
def isScalarChar (c : Char) : Bool :=
  c.isAlphanum || c = '_' || c = '+' || c = '-' || c = '.' || c = ':'

/-- Splits off a run.  A date may be followed by a space and a time. -/
def splitRun (cs : List Char) : List Char × List Char :=
  let (run, rest) := cs.span isScalarChar
  match rest with
  | ' ' :: c :: after =>
    if Datetime.skipDate? run = some [] ∧ c.isDigit then
      let (time, rest) := (c :: after).span isScalarChar
      (run ++ ' ' :: time, rest)
    else (run, rest)
  | rest => (run, rest)

end EvpnMetadata.Toml
