import EvpnMetadata.Json.Number
import EvpnMetadata.Settings
import EvpnMetadata.Toml.Reader

/-! # Settings in text

Settings are read from any format of records: a section is a record of named fields, and a field
that is left out takes its default.  The settings of a file are one document, or the defaults where
there is no file.
-/

namespace EvpnMetadata.Settings

/-- How values are taken out of the trees of a format. -/
structure Format (τ : Type) where
  /-- The named fields of a record, each present or left out. -/
  fields? : List String → τ → Option (List (Option τ))
  text? : τ → Option String
  /-- A whole number below a bound. -/
  natBelow? : Nat → τ → Option Nat
  number? : τ → Option Binary64

namespace Format

variable {τ : Type} (format : Format τ)

def field (default : α) (read : τ → Option α) : Option τ → Option α
  | none => some default
  | some value => read value

def uint16? (value : τ) : Option UInt16 := (format.natBelow? UInt16.size value).map UInt16.ofNat

def uint32? (value : τ) : Option UInt32 := (format.natBelow? UInt32.size value).map UInt32.ofNat

def store? (value : τ) : Option StoreSection := do
  let default : StoreSection := {}
  match ← format.fields?
      ["redis_host", "redis_port", "db_number", "table_name", "name_prefix"] value with
  | [host, port, databaseNumber, table, stem] => return {
      host := ← field default.host format.text? host
      port := ← field default.port format.uint16? port
      databaseNumber := ← field default.databaseNumber format.uint32? databaseNumber
      table := ← field default.table format.text? table
      stem := ← field default.stem format.text? stem }
  | _ => none

def topology? (value : τ) : Option TopologySection := do
  let default : TopologySection := {}
  match ← format.fields? ["redis_host", "redis_port", "db_number"] value with
  | [host, port, databaseNumber] => return {
      host := ← field default.host format.text? host
      port := ← field default.port format.uint16? port
      databaseNumber := ← field default.databaseNumber format.uint32? databaseNumber }
  | _ => none

def events? (value : τ) : Option EventSection := do
  let default : EventSection := {}
  match ← format.fields? ["queue_key", "poll_timeout_secs"] value with
  | [queueKey, pollSeconds] => return {
      queueKey := ← field default.queueKey format.text? queueKey
      pollSeconds := ← field default.pollSeconds format.number? pollSeconds }
  | _ => none

def log? (value : τ) : Option LogSection := do
  let default : LogSection := {}
  match ← format.fields? ["level"] value with
  | [level] => return { level := ← field default.level format.text? level }
  | _ => none

def settings? (value : τ) : Option Settings := do
  match ← format.fields? ["metadata_store", "topology", "events", "log"] value with
  | [store, topology, events, log] => return {
      store := ← field {} format.store? store
      topology := ← field {} format.topology? topology
      events := ← field {} format.events? events
      log := ← field {} format.log? log }
  | _ => none

/-- A JSON number is taken for the nearest one. -/
def json : Format Json where
  fields? := Json.fields?
  text? := Json.text?
  natBelow? := Json.natBelow?
  number? := Json.binary64?

/-- The fields of a table by name, or of an array in order.  The unknown fields of a table have to be
readable; the further items of an array do not matter.  A date has none of the fields. -/
def tomlFields? (names : List String) : Toml → Option (List (Option Toml))
  | .table _ entries =>
    if Toml.entriesReadable (entries.filter fun entry => !names.contains entry.1) then
      some (names.map fun name => List.lookup name entries)
    else none
  | .array items => some (positional items)
  | .tables earlier last => some (positional ((earlier ++ [last]).map (.table .stated)))
  | .datetime _ => some (names.map fun _ => none)
  | _ => none
where
  positional (items : List Toml) : List (Option Toml) :=
    (items.take names.length).map some
      ++ List.replicate (names.length - items.length) none

/-- An integer counts as a number if it fits into 64 bits, with a sign or without one. -/
def toml : Format Toml where
  fields? := tomlFields?
  text?
    | .string text => some text
    | _ => none
  natBelow? bound
    | .integer value => if 0 ≤ value ∧ value < bound then some value.toNat else none
    | _ => none
  number?
    | .float value => value
    | .integer value =>
      if -(Nat.pow 2 63 : Int) ≤ value ∧ value < Nat.pow 2 64 then some (.ofInt value) else none
    | _ => none

end Format

/-- What is found where a settings file is looked for. -/
inductive FileContent where
  | missing
  | directory
  | bytes (content : ByteArray)

/-- The settings of a document. -/
def ofToml? (text : String) : Option Settings := (Toml.read? text).bind Format.toml.settings?

/-- The settings of a file, or the defaults where there is no file.  The path appears in the fault
of a text that is no document or does not fit. -/
def ofFile (path : String) : FileContent → Except Fault Settings
  | .missing => .ok {}
  | .directory => .error (.unreadable "Is a directory (os error 21)")
  | .bytes content =>
    match String.fromUTF8? content with
    | none => .error (.unreadable "stream did not contain valid UTF-8")
    | some text =>
      match ofToml? text with
      | some settings => .ok settings
      | none =>
        .error (.badConfiguration ("Failed to parse config file " ++ path ++ ": " ++ Toml.refusal))

end EvpnMetadata.Settings
