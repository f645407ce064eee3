import EvpnMetadata.Lifecycle.Event
import EvpnMetadata.Procedure

/-! # The event bus

The bus hands an event to its handlers in order and stops at the first failure.  Handlers may work
in any monad; the bus itself only writes log lines.
-/

namespace EvpnMetadata.Lifecycle

structure Handler (m : Type → Type) where
  name : String
  handle : Event → m (Except Fault Unit)

namespace Bus

variable {m : Type → Type} [Monad m] (report : LogLine → m Unit)

def failureLine (handler : Handler m) (event : Event) (fault : Fault) : LogLine where
  level := .error
  text := "Handler " ++ handler.name ++ " failed on " ++ event.kind ++ " (" ++ event.phase.name
    ++ "): " ++ fault.message

/-- Hands an event to each handler up to and including the first that fails. -/
def dispatch (event : Event) : List (Handler m) → m (Except Fault Unit)
  | [] => return .ok ()
  | handler :: rest => do
    match ← handler.handle event with
    | .ok () => dispatch event rest
    | .error fault =>
      report (failureLine handler event fault)
      return .error fault

/-- Dispatches events in order, whether earlier ones failed or not, and counts the failures. -/
def run (handlers : List (Handler m)) : List Event → m Nat
  | [] => return 0
  | event :: rest => do
    let failures := match ← dispatch report event handlers with
      | .ok () => 0
      | .error _ => 1
    return failures + (← run handlers rest)

end Bus

/-- Log lines of a procedure. -/
def logLine (line : LogLine) : Procedure Unit := .log line (.done ())

end EvpnMetadata.Lifecycle
