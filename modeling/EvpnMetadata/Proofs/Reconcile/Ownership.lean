import EvpnMetadata.Proofs.Reconcile.Answers
import EvpnMetadata.Proofs.Topology.Inventory
import EvpnMetadata.Reconcile.Hooks

/-! # Ownership on an inventory

An inventory answers every question of the reconciler, so what is resolved from it is a function of
its records: who owns a network, and which networks a router or a BGPVPN reaches.
-/

namespace EvpnMetadata.Topology.Inventory

open Vpn Reconcile

variable (inventory : Inventory)

/-- The inventory as it answers while nothing changes it. -/
abbrev still : Source Unit := source.frozen inventory

def direct (networkId : String) (departing : Departing) : List Bgpvpn :=
  inventory.bgpvpns.filter fun bgpvpn =>
    bgpvpn.hasNetwork networkId && !departing.dropsDirect bgpvpn.id networkId

def ofRouter (routerId : String) (departing : Departing) : Option Bgpvpn :=
  inventory.bgpvpns.find? fun bgpvpn =>
    bgpvpn.hasRouter routerId && !departing.dropsThroughRouter bgpvpn.id routerId

def interfacesOn (networkId : String) (departing : Departing) : List Port :=
  inventory.ports.filter fun port =>
    port.isRouterInterface && port.networkId = networkId && !departing.dropsPort port

/-- The first BGPVPN that reaches a network through a router. -/
def derived (networkId : String) (departing : Departing) : Option Bgpvpn :=
  (inventory.interfacesOn networkId departing).findSome? fun port =>
    inventory.ofRouter port.deviceId departing

def claimants (networkId : String) (departing : Departing) : List Bgpvpn :=
  firsts Bgpvpn.id
    ((firsts id ((inventory.interfacesOn networkId departing).map Port.deviceId)).filterMap
      fun routerId => inventory.ofRouter routerId departing)

theorem head?_claimants (networkId : String) (departing : Departing) :
    (inventory.claimants networkId departing).head? = inventory.derived networkId departing := by
  rw [claimants, head?_firsts, List.head?_filterMap, findSome?_firsts, List.findSome?_map]
  rfl

def owner (networkId : String) (departing : Departing) : Option Bgpvpn :=
  (inventory.direct networkId departing).head?.or (inventory.derived networkId departing)

def connected (routerId : String) : List String :=
  firsts id ((inventory.ports.filter fun port =>
    port.isRouterInterface && port.deviceId = routerId).map Port.networkId)

def reached (bgpvpn : Bgpvpn) : List String :=
  bgpvpn.routers.foldl (fun networks routerId => appendNew networks (inventory.connected routerId))
    bgpvpn.networks

def record? (bgpvpnId : String) : Option Bgpvpn :=
  inventory.bgpvpns.find? fun bgpvpn => bgpvpn.id = bgpvpnId

theorem lists : inventory.still.ListsRecords () inventory.bgpvpns := fun _ => rfl

theorem filter_interfaces (networkId : String) (departing : Departing) :
    (inventory.ports.filter (PortFilter.routerInterfacesOn networkId).admits).filter
      (fun port => !departing.dropsPort port) = inventory.interfacesOn networkId departing := by
  rw [List.filter_filter, interfacesOn]
  congr 1
  funext port
  simp only [PortFilter.routerInterfacesOn, PortFilter.admits, PortFilter.agrees,
    Port.isRouterInterface, Bool.true_and, eq_comm, Bool.and_comm]

theorem filter_interfacesOf (routerId : String) :
    inventory.ports.filter (PortFilter.routerInterfacesOf routerId).admits =
      inventory.ports.filter fun port => port.isRouterInterface && port.deviceId = routerId := by
  congr 1
  funext port
  simp only [PortFilter.routerInterfacesOf, PortFilter.admits, PortFilter.agrees,
    Port.isRouterInterface, eq_comm, Bool.and_comm, Bool.true_and]

theorem answer_directBgpvpns (networkId : String) (departing : Departing) :
    (directBgpvpns networkId departing).answer inventory.still =
      .ok (inventory.direct networkId departing) :=
  answer_directBgpvpns_of_listed inventory.lists networkId departing

theorem answer_routerBgpvpn (routerId : String) (departing : Departing) :
    (routerBgpvpn routerId departing).answer inventory.still =
      .ok (inventory.ofRouter routerId departing) :=
  Reconcile.answer_routerBgpvpn inventory.lists routerId departing

theorem answer_routersOfNetwork (networkId : String) (departing : Departing) :
    (routersOfNetwork networkId departing).answer inventory.still =
      .ok (firsts id ((inventory.interfacesOn networkId departing).map Port.deviceId)) := by
  rw [Reconcile.answer_routersOfNetwork, ← filter_interfaces]
  rfl

theorem answer_mapM_routerBgpvpn (networkId : String) (departing : Departing) :
    ((firsts id ((inventory.interfacesOn networkId departing).map Port.deviceId)).mapM
        fun routerId => routerBgpvpn routerId departing).answer inventory.still =
      .ok ((firsts id ((inventory.interfacesOn networkId departing).map Port.deviceId)).map
        fun routerId => inventory.ofRouter routerId departing) :=
  Attempt.answer_mapM _ (fun routerId => inventory.answer_routerBgpvpn routerId departing) _

theorem claimants_eq (networkId : String) (departing : Departing) :
    inventory.claimants networkId departing = firsts Bgpvpn.id
      (((firsts id ((inventory.interfacesOn networkId departing).map Port.deviceId)).map
        fun routerId => inventory.ofRouter routerId departing).filterMap id) := by
  rw [List.filterMap_map]
  rfl

theorem answer_routerDerived (networkId : String) (departing : Departing) :
    (routerDerived networkId departing).answer inventory.still =
      .ok (inventory.derived networkId departing) := by
  rw [Reconcile.answer_routerDerived inventory.lists, derived, ← filter_interfaces]
  rfl

theorem answer_effective (networkId : String) (departing : Departing) :
    (effective networkId departing).answer inventory.still =
      .ok (inventory.owner networkId departing) := by
  rw [effective, Attempt.answer_bind, answer_directBgpvpns, Attempt.ok_bind, owner]
  cases inventory.direct networkId departing with
  | nil => exact inventory.answer_routerDerived networkId departing
  | cons first others => rfl

theorem answer_connectedNetworks (routerId : String) :
    (connectedNetworks routerId).answer inventory.still = .ok (inventory.connected routerId) := by
  rw [Reconcile.answer_connectedNetworks, connected, ← filter_interfacesOf]
  rfl

theorem answer_reachedNetworks (bgpvpn : Bgpvpn) :
    (reachedNetworks bgpvpn).answer inventory.still = .ok (inventory.reached bgpvpn) := by
  apply Attempt.answer_foldlM
  intro networks routerId
  rw [Attempt.answer_bind, answer_connectedNetworks]
  rfl

theorem answer_resolveBgpvpn (bgpvpnId : String) :
    (resolveBgpvpn bgpvpnId).answer inventory.still =
      match inventory.record? bgpvpnId with
      | some bgpvpn => .ok bgpvpn
      | none => .error (.unknownBgpvpn bgpvpnId) := by
  rw [resolveBgpvpn, Attempt.answer_bind]
  change (Except.ok (inventory.record? bgpvpnId) >>= _) = _
  cases inventory.record? bgpvpnId <;> rfl

variable {inventory}

theorem mem_direct {networkId : String} {departing : Departing} {bgpvpn : Bgpvpn} :
    bgpvpn ∈ inventory.direct networkId departing ↔
      bgpvpn ∈ inventory.bgpvpns ∧ networkId ∈ bgpvpn.networks ∧
        departing.dropsDirect bgpvpn.id networkId = false := by
  simp [direct, Bgpvpn.hasNetwork]

theorem mem_interfacesOn {networkId : String} {departing : Departing} {port : Port} :
    port ∈ inventory.interfacesOn networkId departing ↔
      port ∈ inventory.ports ∧ port.isRouterInterface = true ∧ port.networkId = networkId ∧
        departing.dropsPort port = false := by
  simp [interfacesOn, and_assoc]

theorem mem_connected {routerId networkId : String} :
    networkId ∈ inventory.connected routerId ↔
      ∃ port ∈ inventory.ports, port.isRouterInterface = true ∧ port.deviceId = routerId ∧
        port.networkId = networkId := by
  rw [connected, mem_firsts]
  simp [and_assoc]

theorem mem_appendNew {networkId : String} {items more : List String} :
    networkId ∈ appendNew items more ↔ networkId ∈ items ∨ networkId ∈ more := by
  induction more generalizing items with
  | nil => simp [appendNew]
  | cons head rest ih =>
    change networkId ∈ appendNew (if items.contains head then items else items ++ [head]) rest ↔ _
    rw [ih, List.mem_cons, ← or_assoc]
    split
    · next known =>
      refine or_congr_left ⟨.inl, fun either => either.elim id ?_⟩
      rintro rfl
      exact List.contains_iff_mem.mp known
    · rw [List.mem_append, List.mem_singleton]

theorem mem_reached {bgpvpn : Bgpvpn} {networkId : String} :
    networkId ∈ inventory.reached bgpvpn ↔
      networkId ∈ bgpvpn.networks ∨ ∃ routerId ∈ bgpvpn.routers,
        networkId ∈ inventory.connected routerId := by
  rw [reached]
  generalize bgpvpn.networks = networks
  induction bgpvpn.routers generalizing networks with
  | nil => simp
  | cons head rest ih =>
    rw [List.foldl_cons, ih, mem_appendNew, or_assoc]
    simp

theorem ofRouter_eq_some {routerId : String} {departing : Departing} {bgpvpn : Bgpvpn}
    (found : inventory.ofRouter routerId departing = some bgpvpn) :
    bgpvpn ∈ inventory.bgpvpns ∧ routerId ∈ bgpvpn.routers ∧
      departing.dropsThroughRouter bgpvpn.id routerId = false := by
  refine ⟨List.mem_of_find?_eq_some found, ?_⟩
  simpa [Bgpvpn.hasRouter] using List.find?_some found

theorem derived_eq_some {networkId : String} {departing : Departing} {bgpvpn : Bgpvpn}
    (found : inventory.derived networkId departing = some bgpvpn) :
    ∃ port ∈ inventory.interfacesOn networkId departing,
      inventory.ofRouter port.deviceId departing = some bgpvpn :=
  List.exists_of_findSome?_eq_some found

/-- One inventory shows what another one shows, up to changes of the records. -/
structure Shows (shown : Inventory) (departing' : Departing) (inventory : Inventory)
    (departing : Departing) (change : Bgpvpn → Bgpvpn) : Prop where
  direct_eq (networkId : String) :
    shown.direct networkId departing' = (inventory.direct networkId departing).map change
  ofRouter_eq (routerId : String) :
    shown.ofRouter routerId departing' = (inventory.ofRouter routerId departing).map change
  interfacesOn_eq (networkId : String) :
    shown.interfacesOn networkId departing' = inventory.interfacesOn networkId departing

namespace Shows

variable {shown : Inventory} {departing departing' : Departing} {change : Bgpvpn → Bgpvpn}

theorem derived_eq (shows : Shows shown departing' inventory departing change)
    (networkId : String) :
    shown.derived networkId departing' = (inventory.derived networkId departing).map change := by
  rw [derived, derived, shows.interfacesOn_eq, List.map_findSome?]
  congr 1
  funext port
  exact shows.ofRouter_eq port.deviceId

theorem owner_eq (shows : Shows shown departing' inventory departing change) (networkId : String) :
    shown.owner networkId departing' = (inventory.owner networkId departing).map change := by
  rw [owner, owner, shows.direct_eq, shows.derived_eq, List.head?_map, Option.map_or]

/-- Records may be changed one by one, as long as what is dropped stays dropped. -/
theorem of_map (bgpvpns : shown.bgpvpns = inventory.bgpvpns.map change)
    (listed : ∀ bgpvpn networkId,
      ((change bgpvpn).hasNetwork networkId &&
          !departing'.dropsDirect (change bgpvpn).id networkId) =
        (bgpvpn.hasNetwork networkId && !departing.dropsDirect bgpvpn.id networkId))
    (routed : ∀ bgpvpn routerId,
      ((change bgpvpn).hasRouter routerId &&
          !departing'.dropsThroughRouter (change bgpvpn).id routerId) =
        (bgpvpn.hasRouter routerId && !departing.dropsThroughRouter bgpvpn.id routerId))
    (interfaces : ∀ networkId,
      shown.interfacesOn networkId departing' = inventory.interfacesOn networkId departing) :
    Shows shown departing' inventory departing change where
  direct_eq networkId := by
    rw [direct, direct, bgpvpns, List.filter_map]
    congr 2
    funext bgpvpn
    exact listed bgpvpn networkId
  ofRouter_eq routerId := by
    rw [ofRouter, ofRouter, bgpvpns, List.find?_map]
    congr 2
    funext bgpvpn
    exact routed bgpvpn routerId
  interfacesOn_eq := interfaces

end Shows

end EvpnMetadata.Topology.Inventory
