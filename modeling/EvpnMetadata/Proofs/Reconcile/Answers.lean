import EvpnMetadata.Proofs.Procedure
import EvpnMetadata.Reconcile.Resolution

/-! # Answers of a topology

What the reconciler learns from a topology of which any query may fail.  Where the BGPVPNs are
listed from one list of records, the effective BGPVPN of a network depends on the records and on one
listing of ports, which is left out if a BGPVPN is associated with the network directly.
-/

namespace EvpnMetadata

open Vpn EvpnMetadata.Topology

/-- The BGPVPNs are listed from one list of records, whatever becomes of the other queries. -/
def Topology.Source.ListsRecords (source : Source σ) (state : σ) (records : List Bgpvpn) : Prop :=
  ∀ filter, source.bgpvpns state filter = .ok (records.filter filter.admits)

theorem Topology.Source.ListsRecords.all {source : Source σ} {state : σ} {records : List Bgpvpn}
    (listed : source.ListsRecords state records) : source.bgpvpns state .all = .ok records :=
  (listed .all).trans (congrArg Except.ok (List.filter_eq_self.mpr fun _ _ => rfl))

namespace Reconcile

theorem findSome?_filter_ne {f : α → Option β} [DecidableEq α] {item : α} (none : f item = none)
    (items : List α) : (items.filter (· ≠ item)).findSome? f = items.findSome? f := by
  induction items with
  | nil => rfl
  | cons head rest ih =>
    by_cases same : head = item
    · rw [List.filter_cons_of_neg (by simpa using same), ih, List.findSome?_cons, same, none]
    · rw [List.filter_cons_of_pos (by simpa using same), List.findSome?_cons, List.findSome?_cons,
        ih]

theorem findSome?_firsts [DecidableEq α] (f : α → Option β) (items : List α) :
    (firsts id items).findSome? f = items.findSome? f := by
  induction items with
  | nil => rfl
  | cons head rest ih =>
    rw [firsts, List.findSome?_cons, List.findSome?_cons]
    cases found : f head with
    | some value => rfl
    | none => exact (findSome?_filter_ne found _).trans ih

theorem head?_firsts [DecidableEq β] (key : α → β) (items : List α) :
    (firsts key items).head? = items.head? := by
  cases items <;> rfl

theorem mem_firsts [DecidableEq α] (item : α) (items : List α) :
    item ∈ firsts id items ↔ item ∈ items := by
  induction items with
  | nil => rfl
  | cons head rest ih =>
    rw [firsts, List.mem_cons, List.mem_cons, List.mem_filter, ih]
    by_cases same : item = head <;> simp [same]

section Listings

variable (topology : Source Unit)

theorem answer_directBgpvpns (networkId : String) (departing : Departing) :
    (directBgpvpns networkId departing).answer topology =
      (topology.bgpvpns () (.network networkId)).map
        (List.filter fun bgpvpn => !departing.dropsDirect bgpvpn.id networkId) := by
  rw [directBgpvpns, Attempt.answer_bind, Attempt.answer_bgpvpns]
  cases topology.bgpvpns () (.network networkId) <;> rfl

theorem answer_directBgpvpns_nothing (networkId : String) :
    (directBgpvpns networkId .nothing).answer topology =
      topology.bgpvpns () (.network networkId) := by
  rw [answer_directBgpvpns]
  cases topology.bgpvpns () (.network networkId) with
  | ok bgpvpns =>
    change Except.ok (bgpvpns.filter fun _ => true) = _
    rw [List.filter_true]
  | error fault => rfl

theorem answer_routersOfNetwork (networkId : String) (departing : Departing) :
    (routersOfNetwork networkId departing).answer topology =
      (topology.ports () (.routerInterfacesOn networkId)).map fun ports =>
        firsts id ((ports.filter fun port => !departing.dropsPort port).map Port.deviceId) := by
  rw [routersOfNetwork, Attempt.answer_bind, Attempt.answer_ports]
  cases topology.ports () (.routerInterfacesOn networkId) <;> rfl

theorem answer_connectedNetworks (routerId : String) :
    (connectedNetworks routerId).answer topology =
      (topology.ports () (.routerInterfacesOf routerId)).map
        fun ports => firsts id (ports.map Port.networkId) := by
  rw [connectedNetworks, Attempt.answer_bind, Attempt.answer_ports]
  cases topology.ports () (.routerInterfacesOf routerId) <;> rfl

end Listings

section Records

def directly (records : List Bgpvpn) (networkId : String) (departing : Departing) : List Bgpvpn :=
  records.filter fun bgpvpn =>
    bgpvpn.hasNetwork networkId && !departing.dropsDirect bgpvpn.id networkId

def throughRouter (records : List Bgpvpn) (routerId : String) (departing : Departing) :
    Option Bgpvpn :=
  records.find? fun bgpvpn =>
    bgpvpn.hasRouter routerId && !departing.dropsThroughRouter bgpvpn.id routerId

def throughPorts (records : List Bgpvpn) (ports : List Port) (departing : Departing) :
    Option Bgpvpn :=
  (ports.filter fun port => !departing.dropsPort port).findSome? fun port =>
    throughRouter records port.deviceId departing

def associates (records : List Bgpvpn) (routerId : String) (departing : Departing) : List Bgpvpn :=
  records.filter fun bgpvpn =>
    bgpvpn.hasRouter routerId && !departing.dropsThroughRouter bgpvpn.id routerId

theorem filter_network (records : List Bgpvpn) (networkId : String) (departing : Departing) :
    (records.filter (BgpvpnFilter.network networkId).admits).filter
      (fun bgpvpn => !departing.dropsDirect bgpvpn.id networkId) =
        directly records networkId departing := by
  rw [List.filter_filter, directly]
  congr 1
  funext bgpvpn
  simp [BgpvpnFilter.network, BgpvpnFilter.admits, Bool.and_comm]

theorem filter_router (records : List Bgpvpn) (routerId : String) (departing : Departing) :
    (records.filter (BgpvpnFilter.router routerId).admits).filter
      (fun bgpvpn => !departing.dropsThroughRouter bgpvpn.id routerId) =
        associates records routerId departing := by
  rw [List.filter_filter, associates]
  congr 1
  funext bgpvpn
  simp [BgpvpnFilter.router, BgpvpnFilter.admits, Bool.and_comm]

theorem head?_associates (records : List Bgpvpn) (routerId : String) (departing : Departing) :
    (associates records routerId departing).head? = throughRouter records routerId departing :=
  List.head?_filter

theorem head?_directly (records : List Bgpvpn) (networkId : String) :
    (directly records networkId .nothing).head? =
      records.find? fun bgpvpn => bgpvpn.hasNetwork networkId := by
  rw [directly, List.head?_filter]
  congr 1
  funext bgpvpn
  exact Bool.and_true _

variable {topology : Source Unit} {records : List Bgpvpn}
  (listed : topology.ListsRecords () records)

include listed

theorem answer_directBgpvpns_of_listed (networkId : String) (departing : Departing) :
    (directBgpvpns networkId departing).answer topology =
      .ok (directly records networkId departing) := by
  rw [answer_directBgpvpns, listed, ← filter_network]
  rfl

theorem answer_routerBgpvpn (routerId : String) (departing : Departing) :
    (routerBgpvpn routerId departing).answer topology =
      .ok (throughRouter records routerId departing) := by
  rw [routerBgpvpn, Attempt.answer_bind, Attempt.answer_bgpvpns, listed, ← head?_associates,
    ← filter_router]
  change Attempt.answer _ _ = _
  generalize List.filter _ (List.filter _ _) = items
  match items with
  | [] => rfl
  | [_] => rfl
  | _ :: _ :: _ => rfl

theorem answer_routerDerived (networkId : String) (departing : Departing) :
    (routerDerived networkId departing).answer topology =
      (topology.ports () (.routerInterfacesOn networkId)).map fun ports =>
        throughPorts records ports departing := by
  rw [routerDerived, Attempt.answer_bind, answer_routersOfNetwork]
  cases topology.ports () (.routerInterfacesOn networkId) with
  | error fault => rfl
  | ok ports =>
    let routers :=
      firsts id ((ports.filter fun port => !departing.dropsPort port).map Port.deviceId)
    have first : (firsts Bgpvpn.id ((routers.map fun routerId =>
        throughRouter records routerId departing).filterMap id)).head? =
        throughPorts records ports departing := by
      rw [head?_firsts, List.filterMap_map, List.head?_filterMap, findSome?_firsts,
        List.findSome?_map]
      rfl
    change Attempt.answer (routers.mapM (fun routerId => routerBgpvpn routerId departing) >>= _)
      topology = .ok (throughPorts records ports departing)
    rw [Attempt.answer_bind,
      Attempt.answer_mapM _ fun routerId => answer_routerBgpvpn listed routerId departing,
      Attempt.ok_bind, ← first]
    generalize firsts Bgpvpn.id _ = items
    match items with
    | [] => rfl
    | [_] => rfl
    | _ :: _ :: _ => rfl

/-- The ports matter only if no record is associated with the network directly. -/
theorem answer_effective (networkId : String) (departing : Departing) :
    (effective networkId departing).answer topology =
      match directly records networkId departing with
      | direct :: _ => .ok (some direct)
      | [] => (topology.ports () (.routerInterfacesOn networkId)).map fun ports =>
          throughPorts records ports departing := by
  rw [effective, Attempt.answer_bind, answer_directBgpvpns_of_listed listed, Attempt.ok_bind]
  cases directly records networkId departing with
  | nil => exact answer_routerDerived listed networkId departing
  | cons first others => rfl

/-- The owner of a network is unknown if it takes ports that cannot be listed to find it. -/
theorem answer_effective_eq_error {networkId : String} {fault : Fault} :
    (effective networkId .nothing).answer topology = .error fault ↔
      (records.find? fun bgpvpn => bgpvpn.hasNetwork networkId) = none ∧
        topology.ports () (.routerInterfacesOn networkId) = .error fault := by
  rw [answer_effective listed, ← head?_directly]
  cases directly records networkId .nothing with
  | nil => cases topology.ports () (.routerInterfacesOn networkId) <;> simp [Except.map]
  | cons first others => simp

theorem answer_effective_of_direct {networkId : String} {bgpvpn : Bgpvpn}
    (direct : (records.find? fun bgpvpn => bgpvpn.hasNetwork networkId) = some bgpvpn) :
    (effective networkId .nothing).answer topology = .ok (some bgpvpn) := by
  rw [← head?_directly] at direct
  rw [answer_effective listed]
  cases found : directly records networkId .nothing with
  | nil =>
    rw [found] at direct
    cases direct
  | cons first others =>
    rw [found] at direct
    cases direct
    rfl

end Records

end Reconcile

end EvpnMetadata
