import EvpnMetadata.Switch.Backend

/-! # Switches in memory

A memory store maps names to switches.  It counts the transactions that it has committed.
-/

namespace EvpnMetadata.Switch

/-- A switch without its name. -/
structure Entry where
  uuid : String
  bag : Bag
  deriving DecidableEq, Repr

structure Memory where
  switches : FiniteMap Entry := .empty
  committed : Nat := 0
  deriving DecidableEq, Repr

namespace Memory

def bag? (memory : Memory) (name : String) : Option Bag := (memory.switches.get? name).map Entry.bag

/-- Makes an empty switch under a fresh uuid, unless there is one of that name. -/
def add (memory : Memory) (name uuid : String) : Memory :=
  if memory.switches.contains name then memory
  else { memory with switches := memory.switches.insert name { uuid, bag := .empty } }

/-- Sets a key outside any transaction. -/
def setKey (memory : Memory) (name key value : String) : Memory :=
  { memory with
    switches := memory.switches.modify name fun entry =>
      { entry with bag := entry.bag.insert key value } }

def remove (memory : Memory) (name : String) : Memory :=
  { memory with switches := memory.switches.erase name }

def row (name : String) (entry : Entry) : Row := { uuid := entry.uuid, name, bag := entry.bag }

def lookup (memory : Memory) (name : String) : Option Row :=
  (memory.switches.get? name).map (row name)

def rows (memory : Memory) : List Row :=
  memory.switches.entries.map fun entry => row entry.1 entry.2

/-- Applies every change to the incarnation that the row was read from, or none. -/
def transact (memory : Memory) (target : Row) (changes : List Change) :
    Except Fault Unit × Memory :=
  match memory.switches.get? target.name with
  | none => (.error (rowGone target.name), memory)
  | some entry =>
    if entry.uuid = target.uuid then
      let entry := { entry with bag := entry.bag.applyAll changes }
      (.ok (), { memory with
        switches := memory.switches.insert target.name entry
        committed := memory.committed + 1 })
    else (.error (rowGone target.name), memory)

def backend : Backend Memory where
  lookup memory name := .ok (memory.lookup name)
  rows memory := .ok memory.rows
  transact := transact

end Memory

end EvpnMetadata.Switch
