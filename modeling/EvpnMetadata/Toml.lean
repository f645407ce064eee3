import EvpnMetadata.Binary64

/-! # TOML trees

A document is a table.  A table remembers how it came to be, because that decides whether a later
line of the document may still add to it.
-/

namespace EvpnMetadata

/-- How a table came to be. -/
inductive Toml.Origin where
  /-- Written in braces: complete at once. -/
  | closed
  /-- Named by its own header. -/
  | stated
  /-- Passed by the header of another table. -/
  | implied
  /-- Passed by a dotted key. -/
  | dotted
  deriving DecidableEq, Repr

/-- A float has no value when its literal is finite and too large for the format. -/
inductive Toml where
  | string (text : String)
  | integer (value : Int)
  | float (value : Option Binary64)
  | bool (value : Bool)
  | datetime (text : String)
  | array (items : List Toml)
  | table (origin : Toml.Origin) (entries : List (String × Toml))
  /-- An array of tables, each opened by a header of its own; there is always a last one. -/
  | tables (earlier : List (List (String × Toml))) (last : List (String × Toml))
  deriving Repr

namespace Toml

abbrev Entries := List (String × Toml)

/-- Integers that can be told apart from one another; others are refused wherever they are read. -/
def isBounded (value : Int) : Bool := -(Nat.pow 2 127 : Int) ≤ value && value < Nat.pow 2 128

mutual

/-- Every number in a tree is within its bounds. -/
def isReadable : Toml → Bool
  | .integer value => isBounded value
  | .float value => value.isSome
  | .array items => areReadable items
  | .table _ entries => entriesReadable entries
  | .tables earlier last => tablesReadable earlier && entriesReadable last
  | _ => true

def areReadable : List Toml → Bool
  | [] => true
  | item :: rest => item.isReadable && areReadable rest

def entriesReadable : List (String × Toml) → Bool
  | [] => true
  | (_, value) :: rest => value.isReadable && entriesReadable rest

def tablesReadable : List (List (String × Toml)) → Bool
  | [] => true
  | entries :: rest => entriesReadable entries && tablesReadable rest

end

end Toml

end EvpnMetadata
