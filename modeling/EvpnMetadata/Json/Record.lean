import EvpnMetadata.Json.Reader

/-! # Records in JSON

A record of named fields is an object, or an array of the field values in their declared order.
An object may hold unknown keys, but no known key twice, and every key must spell a text; an array
may end early, which leaves the last fields out.
-/

namespace EvpnMetadata.Json

/-- The members with a key, in order. -/
def valuesOf (key : String) (members : List (Option String × Json)) : List Json :=
  (members.filter fun member => member.1 = some key).map Prod.snd

/-- The field of an object: left out, given once, or refused as given twice. -/
def memberOf? (members : List (Option String × Json)) (key : String) : Option (Option Json) :=
  match valuesOf key members with
  | [] => some none
  | [value] => some (some value)
  | _ => none

/-- The fields of a record, each present or left out. -/
def fields? (names : List String) : Json → Option (List (Option Json))
  | .object members =>
    if members.all fun member => member.1.isSome then names.mapM (memberOf? members) else none
  | .array items =>
    if items.length ≤ names.length then
      some (items.map some ++ List.replicate (names.length - items.length) none)
    else none
  | _ => none

def required (read : Json → Option α) (field : Option Json) : Option α := field.bind read

/-- A field that takes a default when it is left out. -/
def withDefault (default : α) (read : Json → Option α) : Option Json → Option α
  | none => some default
  | some value => read value

def text? : Json → Option String
  | .string s => s
  | _ => none

def bool? : Json → Option Bool
  | .bool b => some b
  | _ => none

def texts? : Json → Option (List String)
  | .array items => items.mapM text?
  | _ => none

/-- An unsigned integer literal below a bound; a sign, a point or an exponent makes it none. -/
def natBelow? (bound : Nat) : Json → Option Nat
  | .number ⟨false, whole, [], none⟩ =>
    let value := Text.Decimal.digitsValue whole
    if value < bound then some value else none
  | _ => none

def uint32? (value : Json) : Option UInt32 := (natBelow? UInt32.size value).map UInt32.ofNat

def uint16? (value : Json) : Option UInt16 := (natBelow? UInt16.size value).map UInt16.ofNat

/-- A value, or null for its absence. -/
def nullable (read : Json → Option α) : Json → Option (Option α)
  | .null => some none
  | value => (read value).map some

/-- A name that stands alone, or as the only key of an object whose value is a unit. -/
def unitName? (isUnit : Json → Bool) : Json → Option String
  | .string s => s
  | .object [(key, value)] => if isUnit value then key else none
  | _ => none

def isNull : Json → Bool
  | .null => true
  | _ => false

/-- The reason given for a text that does not hold the expected JSON. -/
def refusal : String := "<json>"

/-- Reads a JSON text that must hold a list of texts. -/
def readTexts? (text : String) : Option (List String) := (read? text).bind texts?

end EvpnMetadata.Json
