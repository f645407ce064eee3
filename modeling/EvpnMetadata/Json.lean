/-! # JSON trees

A tree keeps what the text holds: members in their order with repeated keys, numerals as digits,
and string literals that spell no text because an escape names half of a surrogate pair.
-/

namespace EvpnMetadata

/-- A numeral as written: `fraction` is empty without a point, and an exponent has a sign. -/
structure Numeral where
  negative : Bool := false
  whole : List Char
  fraction : List Char := []
  exponent : Option (Bool × List Char) := none
  deriving DecidableEq, Repr

inductive Json where
  | null
  | bool (value : Bool)
  | number (value : Numeral)
  | string (text : Option String)
  | array (items : List Json)
  | object (members : List (Option String × Json))
  deriving Repr

namespace Json

def text (s : String) : Json := .string (some s)

def nat (n : Nat) : Json := .number { whole := Nat.toDigits 10 n }

def texts (items : List String) : Json := .array (items.map text)

/-- An object from its members, in order. -/
def record (members : List (String × Json)) : Json :=
  .object (members.map fun member => (some member.1, member.2))

def ofOption (f : α → Json) : Option α → Json
  | none => .null
  | some a => f a

mutual

/-- Levels of nesting: a scalar has none. -/
def depth : Json → Nat
  | .array items => depthItems items + 1
  | .object members => depthMembers members + 1
  | _ => 0

def depthItems : List Json → Nat
  | [] => 0
  | item :: rest => max item.depth (depthItems rest)

def depthMembers : List (Option String × Json) → Nat
  | [] => 0
  | (_, value) :: rest => max value.depth (depthMembers rest)

end

mutual

/-- Every numeral passes a test, and every string literal and key spells a text. -/
def isReadable (inRange : Numeral → Bool) : Json → Bool
  | .number n => inRange n
  | .string s => s.isSome
  | .array items => isReadableItems inRange items
  | .object members => isReadableMembers inRange members
  | _ => true

def isReadableItems (inRange : Numeral → Bool) : List Json → Bool
  | [] => true
  | item :: rest => item.isReadable inRange && isReadableItems inRange rest

def isReadableMembers (inRange : Numeral → Bool) : List (Option String × Json) → Bool
  | [] => true
  | (key, value) :: rest => key.isSome && value.isReadable inRange && isReadableMembers inRange rest

end

end Json

end EvpnMetadata
