import EvpnMetadata.Lifecycle.Bus

/-! # Probes

A probe is a handler that only notes the events it is handed, and fails on some kinds of them.  A
handler that is watched notes its own calls, and otherwise does what it did.
-/

namespace EvpnMetadata.Lifecycle

structure Probe where
  name : String
  failsOn : List String := []
  deriving DecidableEq, Repr

namespace Probe

def note (probe : Probe) (event : Event) : LogLine where
  level := .info
  text := probe.name ++ " " ++ event.kind ++ " " ++ event.phase.name

def answer (probe : Probe) (event : Event) : Except Fault Unit :=
  if probe.failsOn.contains event.kind then
    .error (.queryFailed "handle" ("injected by " ++ probe.name))
  else .ok ()

def handler (probe : Probe) : Handler Procedure where
  name := probe.name
  handle event := .log (probe.note event) (.done (probe.answer event))

end Probe

namespace Bus

/-- What a handler, named by its place among the handlers, answered to an event. -/
structure Call where
  position : Nat
  event : Event
  answer : Except Fault Unit

/-- A call that did not fail. -/
def Call.passed (event : Event) (position : Nat) : Call := ⟨position, event, .ok ()⟩

variable {σ : Type}

/-- A handler that does what it did and notes that it was called. -/
def watch (position : Nat) (handler : Handler (StateM σ)) : Handler (StateM (σ × List Call)) where
  name := handler.name
  handle event state :=
    let (answer, after) := handler.handle event state.1
    (answer, after, state.2 ++ [⟨position, event, answer⟩])

/-- Handlers that are watched, from a position on. -/
def watchFrom : Nat → List (Handler (StateM σ)) → List (Handler (StateM (σ × List Call)))
  | _, [] => []
  | position, handler :: rest => watch position handler :: watchFrom (position + 1) rest

/-- Log lines are written as before. -/
def watchLines (report : LogLine → StateM σ Unit) (line : LogLine) : StateM (σ × List Call) Unit :=
  fun state => ((), (report line state.1).2, state.2)

end Bus

end EvpnMetadata.Lifecycle
