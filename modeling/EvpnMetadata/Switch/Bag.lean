import EvpnMetadata.FiniteMap

/-! # Attribute bags

Each logical switch carries a bag of attributes that several writers share.  A transaction changes
a bag by setting and removing keys from left to right.
-/

namespace EvpnMetadata.Switch

abbrev Bag := FiniteMap String

inductive Change where
  | set (key value : String)
  | remove (key : String)
  deriving DecidableEq, Repr

namespace Change

def key : Change → String
  | set key _ => key
  | remove key => key

def apply (bag : Bag) : Change → Bag
  | set key value => bag.insert key value
  | remove key => bag.erase key

theorem get?_apply (bag : Bag) (change : Change) (key : String) :
    (change.apply bag).get? key =
      if key = change.key then
        match change with
        | set _ value => some value
        | remove _ => none
      else bag.get? key := by
  cases change with
  | set k v => exact FiniteMap.get?_insert bag k key v
  | remove k => exact FiniteMap.get?_erase bag k key

end Change

/-- Applies a transaction, so that the last change of a key decides its value. -/
def Bag.applyAll (bag : Bag) (changes : List Change) : Bag := changes.foldl Change.apply bag

/-- The changes that set every key of a bag, in key order. -/
def Bag.sets (bag : Bag) : List Change := bag.entries.map fun entry => .set entry.1 entry.2

end EvpnMetadata.Switch
