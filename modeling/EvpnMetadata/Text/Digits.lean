/-! # Digits

Reading an unsigned decimal below a bound: one leading plus sign is accepted, and the first
character that is no digit, or that takes the value past the bound, decides the fault.  Beside it,
runs of digits of either letter case in any radix up to sixteen.
-/

namespace EvpnMetadata.Text.Decimal

inductive NumberFault where
  | empty
  | invalidDigit
  | tooLarge
  deriving DecidableEq, Repr

def NumberFault.message : NumberFault → String
  | .empty => "cannot parse integer from empty string"
  | .invalidDigit => "invalid digit found in string"
  | .tooLarge => "number too large to fit in target type"

def digit? (c : Char) : Option Nat :=
  if c.isDigit then some (c.toNat - '0'.toNat) else none

/-- The value of a run of digits, without a bound; other characters count as zero. -/
def digitsValue (digits : List Char) : Nat :=
  digits.foldl (fun value c => 10 * value + (digit? c).getD 0) 0

/-- Extends a value by digits from left to right, up to a largest value. -/
def readDigits (largest value : Nat) : List Char → Except NumberFault Nat
  | [] => .ok value
  | c :: rest =>
    match digit? c with
    | none => .error .invalidDigit
    | some d =>
      if 10 * value + d ≤ largest then readDigits largest (10 * value + d) rest
      else .error .tooLarge

/-- Reads an unsigned decimal of at most `largest`; a sign alone is an invalid digit. -/
def read (largest : Nat) (text : String) : Except NumberFault Nat :=
  match text.toList with
  | [] => .error .empty
  | ['+'] => .error .invalidDigit
  | '+' :: digits => readDigits largest 0 digits
  | digits => readDigits largest 0 digits

def readUInt32 (text : String) : Except NumberFault UInt32 :=
  (read (UInt32.size - 1) text).map UInt32.ofNat

/-- The decimal text of a number, without leading zeros. -/
def write (n : Nat) : String := String.ofList (Nat.toDigits 10 n)

end EvpnMetadata.Text.Decimal

namespace EvpnMetadata.Text.Hexadecimal

def digit? (c : Char) : Option Nat :=
  if c.isDigit then some (c.toNat - '0'.toNat)
  else if 'a' ≤ c ∧ c ≤ 'f' then some (c.toNat - 'a'.toNat + 10)
  else if 'A' ≤ c ∧ c ≤ 'F' then some (c.toNat - 'A'.toNat + 10)
  else none

def isDigitIn (radix : Nat) (c : Char) : Bool :=
  match digit? c with
  | some value => value < radix
  | none => false

/-- The value of a run of digits; other characters count as zero. -/
def valueIn (radix : Nat) (digits : List Char) : Nat :=
  digits.foldl (fun value c => radix * value + (digit? c).getD 0) 0

/-- The value of a text that holds digits only. -/
def value? (digits : List Char) : Option Nat :=
  if digits.all (isDigitIn 16) then some (valueIn 16 digits) else none

/-- A number in lower case, with at least `width` digits. -/
def write (width n : Nat) : String :=
  let digits := Nat.toDigits 16 n
  String.ofList (List.replicate (width - digits.length) '0' ++ digits)

end EvpnMetadata.Text.Hexadecimal
