import EvpnMetadata.Deployment

/-! # Rehearsals

A rehearsal is a deployment with faults on demand: queries can be broken by name, and transactions
aborted, all of them or the next few.
-/

namespace EvpnMetadata.Topology

/-- The argument part of a port listing, with a star for a part that is not given. -/
def PortFilter.label (filter : PortFilter) : String :=
  filter.deviceId.getD "*" ++ "/" ++ filter.networkId.getD "*"

def BgpvpnFilter.label : BgpvpnFilter → String
  | .all => "all"
  | .networks ids => "network=" ++ ",".intercalate ids
  | .routers ids => "router=" ++ ",".intercalate ids

/-- Answers unless the named query is out. -/
def answerUnless (outage : List String) (query argument : String) (answer : Except Fault α) :
    Except Fault α :=
  if outage.contains (query ++ ":" ++ argument) then
    .error (.queryFailed query ("injected for " ++ argument))
  else answer

/-- A source whose state also holds the queries that are out. -/
def Source.withOutage (source : Source σ) (outage : σ → List String) : Source σ where
  router state id := answerUnless (outage state) "get_router" id (source.router state id)
  subnet state id := answerUnless (outage state) "get_subnet" id (source.subnet state id)
  bgpvpn state id := answerUnless (outage state) "get_bgpvpn" id (source.bgpvpn state id)
  ports state filter :=
    answerUnless (outage state) "list_ports" filter.label (source.ports state filter)
  bgpvpns state filter :=
    answerUnless (outage state) "list_bgpvpns" filter.label (source.bgpvpns state filter)

end EvpnMetadata.Topology

namespace EvpnMetadata.Switch

/-- Which transactions are to be aborted. -/
structure AbortPlan where
  all : Bool := false
  next : Nat := 0
  deriving DecidableEq, Repr, Inhabited

namespace AbortPlan

/-- Whether the next transaction is aborted, and the plan for those after it. -/
def draw (plan : AbortPlan) : Bool × AbortPlan :=
  if plan.all then (true, plan)
  else
    match plan.next with
    | 0 => (false, plan)
    | n + 1 => (true, { plan with next := n })

end AbortPlan

/-- A backend whose state also holds what decides, transaction by transaction, which are aborted. -/
def Backend.aborting (draw : π → Bool × π) (backend : Backend σ) : Backend (π × σ) where
  lookup state := backend.lookup state.2
  rows state := backend.rows state.2
  transact state row changes :=
    let (aborted, plan) := draw state.1
    if aborted then
      (.error (.transactionFailed row.name "injected transaction abort"), plan, state.2)
    else
      let (result, after) := backend.transact state.2 row changes
      (result, plan, after)

/-- A backend whose state also holds an abort plan. -/
def Backend.faulty (backend : Backend σ) : Backend (AbortPlan × σ) := backend.aborting AbortPlan.draw

end EvpnMetadata.Switch

namespace EvpnMetadata

open EvpnMetadata.Topology Switch

structure Rehearsal (σ : Type) where
  world : σ
  outage : List String := []
  plan : AbortPlan := {}

/-- The same deployment, with faults on demand. -/
def Deployment.rehearse (deployment : Deployment σ) : Deployment (Rehearsal σ) where
  topology := (deployment.topology.comap Rehearsal.world).withOutage Rehearsal.outage
  store := deployment.store.faulty.onPart
    (fun rehearsal => (rehearsal.plan, rehearsal.world))
    (fun rehearsal after => { rehearsal with plan := after.1, world := after.2 })

end EvpnMetadata
