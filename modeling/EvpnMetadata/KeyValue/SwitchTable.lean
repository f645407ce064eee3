import EvpnMetadata.KeyValue.Database
import EvpnMetadata.Switch.Backend
import EvpnMetadata.Text.Leading

/-! # Switch tables

A logical switch is kept in a database as two hashes: its row, with the uuid, and its bag.  A
transaction is one script, which looks for the row before it changes the bag key by key.
-/

namespace EvpnMetadata.KeyValue

open Switch

structure SwitchTable where
  table : String
  deriving DecidableEq, Repr

namespace SwitchTable

variable (switches : SwitchTable)

def rowKey (name : String) : String := switches.table ++ "|" ++ name

def bagKey (name : String) : String := switches.rowKey name ++ "|external_ids"

/-- The field of a row that names its incarnation. -/
def uuidField : String := "_uuid"

/-- The row that a key belongs to; a name holds no separator. -/
def nameOfKey? (key : String) : Option String := do
  let name ← Text.after? (switches.table ++ "|") key
  if name.toList.contains '|' then none else some name

def refused (name : String) : Fault := .transactionFailed name refusal

def lookup (database : Database) (name : String) : Except Fault (Option Row) :=
  match database.hash? (switches.rowKey name) with
  | none => .error (refused name)
  | some row =>
    if row.isEmpty then .ok none
    else
      match database.hash? (switches.bagKey name) with
      | none => .error (refused name)
      | some bag => .ok (some { uuid := row.getD uuidField "", name, bag })

def rowNames (database : Database) : List String :=
  (FiniteMap.ofKeys
    ((database.keysLike (switches.table ++ "|*")).filterMap switches.nameOfKey?)).keys

def rows (database : Database) : Except Fault (List Row) := do
  let rows ← (switches.rowNames database).mapM (switches.lookup database)
  return rows.filterMap id

def setCommand : String := "set"

def removeCommand : String := "del"

/-- A command of the script with its key and its value, which a removal leaves empty. -/
def commandOf : Change → List String
  | .set key value => [setCommand, key, value]
  | .remove key => [removeCommand, key, ""]

/-- The arguments of the script: the uuid, and then three for each change. -/
def scriptArguments (uuid : String) (changes : List Change) : List String :=
  uuid :: changes.flatMap commandOf

/-- Whether the script finds the row, of the given incarnation if one is given. -/
def rowStands (database : Database) (name uuid : String) : Except Fault Bool :=
  if !database.contains (switches.rowKey name) then .ok false
  else if uuid.isEmpty then .ok true
  else
    match database.hash? (switches.rowKey name) with
    | none => .error (refused name)
    | some row => .ok (decide (row.get? uuidField = some uuid))

/-- One command of the script; it is refused on a key that holds a list. -/
def runCommand (name : String) (database : Database) (command key value : String) :
    Except Fault Database :=
  match database.hash? (switches.bagKey name) with
  | none => .error (refused name)
  | some bag =>
    let after := if command = setCommand then bag.insert key value else bag.erase key
    .ok (database.putHash (switches.bagKey name) after)

/-- The loop of the script, which takes three arguments at a time; too few for a command are an
error.  What was done before a refusal would stay. -/
def runCommands (name : String) : List String → Database → Except Fault Unit × Database
  | [], database => (.ok (), database)
  | command :: key :: value :: rest, database =>
    match switches.runCommand name database command key value with
    | .ok after => runCommands name rest after
    | .error fault => (.error fault, database)
  | _, database => (.error (refused name), database)

/-- The script on the two keys of a row. -/
def runScript (name : String) (arguments : List String) (database : Database) :
    Except Fault Unit × Database :=
  match arguments with
  | [] => (.error (refused name), database)
  | uuid :: commands =>
    match switches.rowStands database name uuid with
    | .ok true => switches.runCommands name commands database
    | .ok false => (.error (rowGone name), database)
    | .error fault => (.error fault, database)

/-- Changes the bag of a row that is found. -/
def transact (database : Database) (target : Row) (changes : List Change) :
    Except Fault Unit × Database :=
  switches.runScript target.name (scriptArguments target.uuid changes) database

def backend : Backend Database where
  lookup := switches.lookup
  rows := switches.rows
  transact := switches.transact

end SwitchTable

end EvpnMetadata.KeyValue
