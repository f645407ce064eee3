import EvpnMetadata.FiniteMap
import EvpnMetadata.KeyValue.Glob

/-! # Key-value databases

A server holds numbered databases of keys, each a hash of texts or a list of texts.  A key whose
hash or list becomes empty disappears.  Commands on a key of the other kind are refused.
-/

namespace EvpnMetadata.KeyValue

abbrev Hash := FiniteMap String

inductive Value where
  | hash (fields : Hash)
  | list (items : List String)
  deriving DecidableEq, Repr

abbrev Database := FiniteMap Value

/-- The reason given for a command that the server refuses, or for one that cannot be sent. -/
def refusal : String := "<redis>"

namespace Database

/-- The hash at a key, empty where there is none, unless the key holds a list. -/
def hash? (database : Database) (key : String) : Option Hash :=
  match database.get? key with
  | none => some .empty
  | some (.hash fields) => some fields
  | some (.list _) => none

def list? (database : Database) (key : String) : Option (List String) :=
  match database.get? key with
  | none => some []
  | some (.list items) => some items
  | some (.hash _) => none

def putHash (database : Database) (key : String) (fields : Hash) : Database :=
  if fields.isEmpty then database.erase key else database.insert key (.hash fields)

def putList (database : Database) (key : String) (items : List String) : Database :=
  if items.isEmpty then database.erase key else database.insert key (.list items)

/-- The keys that match a pattern, in key order. -/
def keysLike (database : Database) (pattern : String) : List String :=
  database.keys.filter (globMatches pattern)

end Database

/-- The databases of a server, by number. -/
structure Server where
  databases : List (Nat × Database) := []
  deriving DecidableEq, Repr, Inhabited

namespace Server

def get (server : Server) (number : Nat) : Database :=
  (server.databases.lookup number).getD .empty

/-- Places a database in the order of the numbers. -/
def place (number : Nat) (database : Database) : List (Nat × Database) → List (Nat × Database)
  | [] => [(number, database)]
  | entry :: rest =>
    if number < entry.1 then (number, database) :: entry :: rest
    else if number = entry.1 then (number, database) :: rest
    else entry :: place number database rest

def set (server : Server) (number : Nat) (database : Database) : Server :=
  ⟨place number database server.databases⟩

end Server

end EvpnMetadata.KeyValue
