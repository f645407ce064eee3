import EvpnMetadata.KeyValue.Database
import EvpnMetadata.Lifecycle.Wire
import EvpnMetadata.Procedure
import EvpnMetadata.TimeSpan

/-! # Event queues

Events wait in a list of a database as JSON texts, the oldest first.  A text that does not decode is
dropped with a warning.
-/

namespace EvpnMetadata.KeyValue

open Lifecycle

structure EventQueue where
  key : String := "BGPVPN_EVENTS"
  deriving DecidableEq, Repr, Inhabited

/-- A command that waits for the oldest text of a list, with a timeout in seconds. -/
structure Wait where
  key : String
  timeout : Binary64
  deriving DecidableEq, Repr

/-- The server takes a timeout of zero for a wait without end. -/
def Wait.isEndless (wait : Wait) : Bool := wait.timeout.isZero

namespace EventQueue

variable (queue : EventQueue)

/-- The command with which an event is waited for. -/
def wait (timeout : TimeSpan) : Wait := ⟨queue.key, timeout.inSeconds⟩

/-- What taking the oldest text brought. -/
inductive Popped where
  | nothing
  | got (event : Event)
  | undecodable
  deriving DecidableEq, Repr

def Popped.event? : Popped → Option Event
  | got event => some event
  | _ => none

def undecodableLine : LogLine where
  level := .warn
  text := "Dropping undecodable event: " ++ Json.refusal

def Popped.lines : Popped → List LogLine
  | undecodable => [undecodableLine]
  | _ => []

/-- Takes the oldest text out of the queue, if there is one. -/
def pop (database : Database) : Except Fault (Popped × Database) :=
  match database.list? queue.key with
  | none => .error (.queryFailed "BLPOP" refusal)
  | some [] => .ok (.nothing, database)
  | some (text :: rest) =>
    let popped := match Event.decode? text with
      | some event => .got event
      | none => .undecodable
    .ok (popped, database.putList queue.key rest)

/-- Appends an event to the queue. -/
def push (database : Database) (event : Event) : Except Fault Database :=
  match database.list? queue.key with
  | none => .error (.queryFailed "RPUSH" refusal)
  | some items => .ok (database.putList queue.key (items ++ [event.encode]))

end EventQueue

end EvpnMetadata.KeyValue
