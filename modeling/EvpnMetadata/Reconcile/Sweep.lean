import EvpnMetadata.Reconcile.Hooks

/-! # Sweeps

A sweep recomputes the metadata of every network that carries or needs any.  A fault on one network
is recorded and does not stop the others.
-/

namespace EvpnMetadata.Reconcile

open Vpn EvpnMetadata.Topology Switch

/-- What a sweep did, by network, each list in the order of network names. -/
structure Report where
  applied : List String := []
  cleared : List String := []
  missing : List String := []
  failed : List (String × String) := []
  deriving DecidableEq, Repr, Inhabited

def Report.isClean (report : Report) : Bool := report.failed.isEmpty

/-- What a sweep did with one network. -/
inductive Verdict where
  | applied
  | cleared
  | missing
  | untouched
  deriving DecidableEq, Repr

def Report.record (report : Report) (networkId : String) : Verdict → Report
  | .applied => { report with applied := report.applied ++ [networkId] }
  | .cleared => { report with cleared := report.cleared ++ [networkId] }
  | .missing => { report with missing := report.missing ++ [networkId] }
  | .untouched => report

def Report.recordFault (report : Report) (networkId : String) (fault : Fault) : Report :=
  { report with failed := report.failed ++ [(networkId, fault.message)] }

variable (naming : Naming)

/-- Publishes the effective BGPVPN of a network, or withdraws what a tagged one still carries. -/
def sweepNetwork (tagged : Bool) (networkId : String) : Attempt Verdict := do
  match ← effective networkId .nothing with
  | some bgpvpn =>
    if ← publish naming networkId bgpvpn then return .applied else return .missing
  | none =>
    if tagged then
      discard (withdraw naming networkId)
      return .cleared
    else return .untouched

/-- Records the outcome of one network. -/
def sweepStep (tagged : FiniteMap Unit) (report : Report) (networkId : String) :
    Procedure Report := do
  match ← (sweepNetwork naming (tagged.contains networkId) networkId).run with
  | .ok verdict => return report.record networkId verdict
  | .error fault =>
    Procedure.log ⟨.error, "Reconciliation of network " ++ networkId ++ " failed: "
      ++ fault.message⟩ (.done (report.recordFault networkId fault))

/-- The networks that a BGPVPN lists, and those that its routers are connected to. -/
def neededNetworks (bgpvpn : Bgpvpn) : Attempt (List String) := do
  let reached ← bgpvpn.routers.mapM connectedNetworks
  return bgpvpn.networks ++ reached.flatten

/-- Sweeps every tagged or needed network, in name order. -/
def sweep : Attempt Report := do
  let bgpvpns ← Attempt.bgpvpns .all
  let tagged := FiniteMap.ofKeys (← configuredNetworks naming)
  let needed ← bgpvpns.mapM neededNetworks
  let networks := (FiniteMap.ofKeys (tagged.keys ++ needed.flatten)).keys
  ExceptT.lift (networks.foldlM (sweepStep naming tagged) {})

end EvpnMetadata.Reconcile
