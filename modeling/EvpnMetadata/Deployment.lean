import EvpnMetadata.Procedure

/-! # Deployments

A deployment answers the steps of a procedure from one state.  Running a procedure returns its
result, the state after it, and what was attempted and logged on the way.
-/

namespace EvpnMetadata

open EvpnMetadata.Topology Switch

structure Deployment (σ : Type) where
  topology : Source σ
  store : Backend σ

/-- A visible effect of a run. -/
inductive Mark where
  | attempted (transaction : Transaction)
  | logged (line : LogLine)
  deriving DecidableEq, Repr

structure Outcome (σ α : Type) where
  result : α
  state : σ
  marks : List Mark := []

namespace Outcome

def addMark (outcome : Outcome σ α) (mark : Mark) : Outcome σ α :=
  { outcome with marks := mark :: outcome.marks }

/-- The transactions attempted in a run, also those that failed. -/
def transactions (outcome : Outcome σ α) : List Transaction :=
  outcome.marks.filterMap fun mark =>
    match mark with
    | .attempted transaction => some transaction
    | .logged _ => none

def lines (outcome : Outcome σ α) : List LogLine :=
  outcome.marks.filterMap fun mark =>
    match mark with
    | .attempted _ => none
    | .logged line => some line

end Outcome

/-- Plays a procedure to its end. -/
def Procedure.play (deployment : Deployment σ) : Procedure α → σ → Outcome σ α
  | done result, state => { result, state }
  | router id next, state => (next (deployment.topology.router state id)).play deployment state
  | subnet id next, state => (next (deployment.topology.subnet state id)).play deployment state
  | bgpvpn id next, state => (next (deployment.topology.bgpvpn state id)).play deployment state
  | ports filter next, state =>
    (next (deployment.topology.ports state filter)).play deployment state
  | bgpvpns filter next, state =>
    (next (deployment.topology.bgpvpns state filter)).play deployment state
  | lookup name next, state => (next (deployment.store.lookup state name)).play deployment state
  | rows next, state => (next (deployment.store.rows state)).play deployment state
  | transact row changes next, state =>
    let (answer, after) := deployment.store.transact state row changes
    ((next answer).play deployment after).addMark (.attempted ⟨row.name, changes⟩)
  | log line next, state => (next.play deployment state).addMark (.logged line)

def Attempt.play (deployment : Deployment σ) (attempt : Attempt α) (state : σ) :
    Outcome σ (Except Fault α) :=
  attempt.run.play deployment state

end EvpnMetadata
