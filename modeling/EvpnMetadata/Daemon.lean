import EvpnMetadata.Daemon.CommandLine
import EvpnMetadata.KeyValue.Connection
import EvpnMetadata.Reconcile.Sweep
import EvpnMetadata.Settings.Format

/-! # The daemon

The daemon takes events out of the queue and hands them to the reconciler, or sweeps once.  It is a
function of its arguments, its settings file and the server that it finds.
-/

namespace EvpnMetadata.Daemon

open KeyValue Lifecycle Reconcile

/-- How a run of the program ended. -/
structure Exit where
  code : UInt8
  out : String := ""
  err : String := ""
  deriving DecidableEq, Repr

def Exit.failure (message : String) : Exit := { code := 1, err := message }

/-- The line for a queue that refuses to be read. -/
def unavailableLine (fault : Fault) : LogLine where
  level := .warn
  text := "Event queue unavailable: " ++ fault.message

/-- What one turn of the loop did. -/
inductive Turn where
  /-- An event was handed to the handlers; their answer is only logged. -/
  | dispatched (event : Event) (answer : Except Fault Unit)
  /-- Nothing waited, or what waited was dropped. -/
  | idle
  /-- The queue refused to be read, for now. -/
  | unavailable (fault : Fault)
  /-- The queue refused to be read, and waiting does not help. -/
  | failed (fault : Fault)

/-- Only a fault of the queue that cannot be waited out ends the loop. -/
def Turn.ends : Turn → Bool
  | failed _ => true
  | _ => false

variable (handlers : List (Handler Procedure)) (settings : Settings)
  (deployment : Deployment Server)

/-- What a turn takes out of the queue, unless the server cannot be reached for some reason. -/
def take (outage : Option String) (database : Database) :
    Except Fault (EventQueue.Popped × Database) :=
  match outage with
  | some reason => .error (.queryFailed "BLPOP" reason)
  | none => settings.events.queue.pop database

/-- One turn of the loop takes a text out of the queue and hands it to the handlers if it is an
event.  No event is tried again. -/
def turn (outage : Option String) (server : Server) : Outcome Server Turn :=
  let number := settings.topology.databaseNumber.toNat
  match take settings outage (server.get number) with
  | .error fault =>
    if fault.isRetryable then
      { result := .unavailable fault, state := server, marks := [.logged (unavailableLine fault)] }
    else { result := .failed fault, state := server }
  | .ok (popped, database) =>
    let server := server.set number database
    match popped.event? with
    | none => { result := .idle, state := server, marks := popped.lines.map .logged }
    | some event =>
      let outcome := (Bus.dispatch logLine event handlers).play deployment server
      { result := .dispatched event outcome.result, state := outcome.state, marks := outcome.marks }

/-- One turn after the other, with the outages that they meet, up to one that ends the loop. -/
def turns : List (Option String) → Server → Outcome Server (List Turn)
  | [], server => { result := [], state := server }
  | outage :: outages, server =>
    let first := turn handlers settings deployment outage server
    if first.result.ends then { first with result := [first.result] }
    else
      let rest := turns outages first.state
      { result := first.result :: rest.result, state := rest.state,
        marks := first.marks ++ rest.marks }

/-- The texts that wait in the queue. -/
def waiting (server : Server) : List String :=
  let database := server.get settings.topology.databaseNumber.toNat
  (database.list? settings.events.queue.key).getD []

/-- The turns without an event after which the daemon is interrupted. -/
def idleTurns : Nat := 2

/-- Processes events until interrupted, or until a turn ends the loop.  A server that was found
stays within reach. -/
def run (reach : Reach) (settings : Settings) (server : Server) : Exit × Server :=
  match connect reach settings.store settings.topology with
  | .error _ => ({ code := 1 }, server)
  | .ok deployment =>
    let count := (waiting settings server).length + idleTurns
    let handlers := [Reconcile.handler settings.store.naming]
    let outcome := turns handlers settings deployment (List.replicate count none) server
    ({ code := if outcome.result.any Turn.ends then 1 else 0 }, outcome.state)

/-- Sweeps once; a network that could not be swept is a failure. -/
def sweepOnce (reach : Reach) (settings : Settings) (server : Server) : Exit × Server :=
  match connect reach settings.store settings.topology with
  | .error _ => ({ code := 1 }, server)
  | .ok deployment =>
    let outcome := (Reconcile.sweep settings.store.naming).play deployment server
    let clean := match outcome.result with
      | .ok report => report.isClean
      | .error _ => false
    ({ code := if clean then 0 else 1 }, outcome.state)

/-- Adds the notice of a settings file that is not there. -/
def withNotice (path : String) (file : Settings.FileContent) (exit : Exit) : Exit :=
  match file with
  | .missing =>
    { exit with err := programName ++ ": Config file " ++ path ++ " not found, using defaults\n"
        ++ exit.err }
  | _ => exit

/-- Performs a command that needs settings. -/
def withSettings (path : String) (file : Settings.FileContent)
    (perform : Settings → Server → Exit × Server) (server : Server) : Exit × Server :=
  let checked : Except Fault Settings := do
    let settings ← Settings.ofFile path file
    settings.check
    return settings
  let (exit, server) := match checked with
    | .error fault => (Exit.failure (programName ++ ": " ++ fault.message ++ "\n"), server)
    | .ok settings => perform settings server
  (withNotice path file exit, server)

/-- Answers a request; the settings file is looked up only for a command that needs it. -/
def Request.answer (request : Request) (file : String → Settings.FileContent) (reach : Reach)
    (server : Server) : Exit × Server :=
  match request with
  | .help topic => ({ code := 0, out := topic.text }, server)
  | .version => ({ code := 0, out := versionText }, server)
  | .perform _ .agentConfig => ({ code := 0, out := agentConfig }, server)
  | .perform path .sweep => withSettings path (file path) (sweepOnce reach) server
  | .perform path .run => withSettings path (file path) (run reach) server

/-- Runs the program; arguments that are refused end it at once. -/
def launch (arguments : List String) (file : String → Settings.FileContent) (reach : Reach)
    (server : Server) : Exit × Server :=
  match Request.ofArguments? arguments with
  | none => ({ code := 2 }, server)
  | some request => request.answer file reach server

end EvpnMetadata.Daemon
