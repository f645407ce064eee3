import EvpnMetadata.Toml

/-! # Assembling documents

The statements of a document build its tables one after the other.  A key is given once, a table is
opened by one header at most, and only a table that was passed on the way to another one can be
added to later.
-/

namespace EvpnMetadata.Toml

/-- A path to a key: the tables on the way, and the key itself. -/
structure Path where
  parents : List String
  name : String
  deriving DecidableEq, Repr

inductive Statement where
  | header (path : Path)
  | tablesHeader (path : Path)
  | assign (path : Path) (value : Toml)
  deriving Repr

/-- Changes what is under a key, where the change may refuse what is there or what is not. -/
def alter (name : String) (change : Option Toml → Option Toml) : Entries → Option Entries
  | [] => (change none).map fun value => [(name, value)]
  | (key, value) :: rest =>
    if key = name then (change (some value)).map fun value => (key, value) :: rest
    else (alter name change rest).map fun rest => (key, value) :: rest

/-- A key may not be there yet. -/
def addNew (name : String) (value : Toml) : Entries → Option Entries :=
  alter name fun
    | none => some value
    | some _ => none

/-- Whether a header or a dotted key may pass through a table. -/
def Origin.isOpen (origin : Origin) (byDottedKey : Bool) : Bool :=
  match origin with
  | .closed => false
  | .stated => !byDottedKey
  | .implied | .dotted => true

/-- The origin of a table that is made on the way. -/
def Origin.passed (byDottedKey : Bool) : Origin := if byDottedKey then .dotted else .implied

/-- Changes the table at the end of a way, making the tables that are missing on it.  The way leads
through the last table of an array of tables. -/
def within (byDottedKey : Bool) (change : Origin → Entries → Option Entries) :
    List String → Origin → Entries → Option Entries
  | [], origin, entries => change origin entries
  | name :: rest, _, entries =>
    alter name (fun
      | none =>
        let origin := Origin.passed byDottedKey
        (within byDottedKey change rest origin []).map (.table origin)
      | some (.table origin inner) =>
        if origin.isOpen byDottedKey then
          (within byDottedKey change rest origin inner).map (.table origin)
        else none
      | some (.tables earlier last) =>
        (within byDottedKey change rest .stated last).map (.tables earlier)
      | some _ => none) entries

/-- Assigns a key below a table.  A dotted key ends in a table that only dotted keys have made. -/
def assignIn (path : Path) (value : Toml) : Entries → Option Entries :=
  within true (fun origin entries =>
    if path.parents.isEmpty ∨ origin = .dotted then addNew path.name value entries else none)
    path.parents .stated

/-- Opens a table, which may have been passed before. -/
def openTable (name : String) : Entries → Option Entries :=
  alter name fun
    | none => some (.table .stated [])
    | some (.table .implied entries) => some (.table .stated entries)
    | some _ => none

/-- Opens a further table of an array of tables. -/
def openNext (name : String) : Entries → Option Entries :=
  alter name fun
    | none => some (.tables [] [])
    | some (.tables earlier last) => some (.tables (earlier ++ [last]) [])
    | some _ => none

/-- A document on the way: its tables, and the way to the open one. -/
structure Draft where
  entries : Entries := []
  current : List String := []

def Draft.add (draft : Draft) : Statement → Option Draft
  | .header path => do
    let entries ← within false (fun _ => openTable path.name) path.parents .stated draft.entries
    return { entries, current := path.parents ++ [path.name] }
  | .tablesHeader path => do
    let entries ← within false (fun _ => openNext path.name) path.parents .stated draft.entries
    return { entries, current := path.parents ++ [path.name] }
  | .assign path value => do
    let entries ← within false (fun _ => assignIn path value) draft.current .stated draft.entries
    return { draft with entries }

/-- The document of some statements. -/
def assemble (statements : List Statement) : Option Toml := do
  let draft ← statements.foldlM Draft.add {}
  return .table .stated draft.entries

/-- The table in braces of some assignments. -/
def inlineTable (members : List (Path × Toml)) : Option Toml := do
  let entries ← members.foldlM (fun entries member => assignIn member.1 member.2 entries) []
  return .table .closed entries

end EvpnMetadata.Toml
