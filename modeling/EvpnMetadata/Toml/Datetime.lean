import EvpnMetadata.Text.Digits

/-! # Dates and times

A date, a time of day, or both with an optional offset, each within the calendar.  Every function
takes the characters that are left and returns those after the part it has found valid.
-/

namespace EvpnMetadata.Toml.Datetime

/-- A number of exactly two digits, up to a largest one. -/
def twoDigits? (smallest largest : Nat) : List Char → Option (Nat × List Char)
  | a :: b :: rest => do
    let value := 10 * (← Text.Decimal.digit? a) + (← Text.Decimal.digit? b)
    if smallest ≤ value ∧ value ≤ largest then return (value, rest) else none
  | _ => none

def isLeap (year : Nat) : Bool := year % 4 = 0 && (year % 100 ≠ 0 || year % 400 = 0)

def daysIn (year month : Nat) : Nat :=
  if month = 2 then if isLeap year then 29 else 28
  else if month = 4 ∨ month = 6 ∨ month = 9 ∨ month = 11 then 30
  else 31

/-- Drops one expected character. -/
def skip? (expected : Char) : List Char → Option (List Char)
  | c :: rest => if c = expected then some rest else none
  | [] => none

/-- A year of four digits, a month and a day. -/
def skipDate? (cs : List Char) : Option (List Char) := do
  let (century, rest) ← twoDigits? 0 99 cs
  let (year, rest) ← twoDigits? 0 99 rest
  let (month, rest) ← twoDigits? 1 12 (← skip? '-' rest)
  let (_, rest) ← twoDigits? 1 (daysIn (100 * century + year) month) (← skip? '-' rest)
  return rest

/-- The digits of a fraction of a second, if there are any. -/
def skipFraction? : List Char → Option (List Char)
  | '.' :: rest =>
    match rest.span Char.isDigit with
    | ([], _) => none
    | (_, after) => some after
  | cs => some cs

/-- Hours, minutes and seconds, of which there may be sixty. -/
def skipTime? (cs : List Char) : Option (List Char) := do
  let (_, rest) ← twoDigits? 0 23 cs
  let (_, rest) ← twoDigits? 0 59 (← skip? ':' rest)
  let (_, rest) ← twoDigits? 0 60 (← skip? ':' rest)
  skipFraction? rest

/-- An offset from universal time. -/
def skipOffset? : List Char → Option (List Char)
  | c :: rest =>
    if c = 'Z' ∨ c = 'z' then some rest
    else if c = '+' ∨ c = '-' then do
      let (_, rest) ← twoDigits? 0 23 rest
      let (_, rest) ← twoDigits? 0 59 (← skip? ':' rest)
      return rest
    else none
  | [] => none

/-- The mark between a date and a time. -/
def isMark (c : Char) : Bool := c = 'T' || c = 't' || c = ' '

/-- What may follow a date: nothing, or a time with an optional offset. -/
def endsDatetime : List Char → Bool
  | [] => true
  | mark :: rest =>
    isMark mark &&
      match skipTime? rest with
      | none => false
      | some [] => true
      | some rest => skipOffset? rest = some []

/-- Whether a text is a date, a time, or both; a time alone has no offset. -/
def isDatetime (cs : List Char) : Bool :=
  match skipDate? cs with
  | some rest => endsDatetime rest
  | none => skipTime? cs = some []

end EvpnMetadata.Toml.Datetime
