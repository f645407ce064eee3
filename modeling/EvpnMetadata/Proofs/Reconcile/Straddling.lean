import EvpnMetadata.Proofs.Reconcile.Changes

/-! # Interfaces on several subnets

While a router leaves a subnet, every interface of the router there counts as gone.  Once the
topology shows the detachment, the rest of an interface on several subnets counts again, so the
owner of the network may depend on whether it does.
-/

namespace EvpnMetadata.Vpn.Port

def isInterfaceOf (routerId networkId : String) (port : Port) : Bool :=
  port.isRouterInterface && port.deviceId = routerId && port.networkId = networkId

def straddles (subnetId : String) (port : Port) : Bool :=
  port.subnetIds.contains subnetId && port.subnetIds.any (· ≠ subnetId)

/-- A port without one of its subnets, if it has another one. -/
def leave (subnetId : String) (port : Port) : Option Port :=
  if port.subnetIds.contains subnetId then
    if port.subnetIds.any (· ≠ subnetId) then
      some { port with subnetIds := port.subnetIds.filter (· ≠ subnetId) }
    else none
  else some port

/-- The rest of a port is not on the subnet that it has left. -/
theorem onSubnet_left {subnetId : String} {port : Port} (straddles : port.straddles subnetId) :
    ({ port with subnetIds := port.subnetIds.filter (· ≠ subnetId) } : Port).onSubnet subnetId =
      false := by
  obtain ⟨other, listed, apart⟩ := List.any_eq_true.mp (Bool.and_eq_true_iff.mp straddles).2
  rw [onSubnet, Bool.or_eq_false_iff]
  constructor
  · rw [List.isEmpty_eq_false_iff]
    exact List.ne_nil_of_mem (List.mem_filter.mpr ⟨listed, apart⟩)
  · simp

end EvpnMetadata.Vpn.Port

namespace EvpnMetadata.Topology.Inventory

open Vpn Reconcile

variable (inventory : Inventory)

def detach (routerId : String) (subnet : Subnet) : Inventory :=
  { inventory with
    ports := inventory.ports.filterMap fun port =>
      if port.isInterfaceOf routerId subnet.networkId then port.leave subnet.id else some port }

/-- The BGPVPN that a port leads to, if it is an interface on the network that stays. -/
def through (networkId : String) (departing : Departing) (port : Port) : Option Bgpvpn :=
  if port.isRouterInterface && port.networkId = networkId && !departing.dropsPort port then
    inventory.ofRouter port.deviceId departing
  else none

def Straddled (routerId : String) (subnet : Subnet) : Prop :=
  ∃ port ∈ inventory.ports,
    port.isInterfaceOf routerId subnet.networkId = true ∧ port.straddles subnet.id = true

instance (routerId : String) (subnet : Subnet) :
    Decidable (inventory.Straddled routerId subnet) :=
  inferInstanceAs (Decidable (∃ port ∈ inventory.ports, _ ∧ _))

/-- The router's BGPVPN reaches a network only through interfaces that stand on the subnet, one of
them on another subnet, too. -/
structure CutsOff (routerId : String) (subnet : Subnet) : Prop where
  free (other : Bgpvpn) : ¬inventory.Direct subnet.networkId other
  straddled : inventory.Straddled routerId subnet
  leads : ∃ bgpvpn, inventory.ofRouter routerId .nothing = some bgpvpn
  alone : inventory.derived subnet.networkId (.routerInterface routerId subnet.id) = none

theorem derived_eq_head? (networkId : String) (departing : Departing) :
    inventory.derived networkId departing =
      (inventory.ports.filterMap (inventory.through networkId departing)).head? := by
  rw [derived, ← List.head?_filterMap, interfacesOn, List.filterMap_filter]
  rfl

variable (routerId : String) (subnet : Subnet)

/-- A router that leaves a subnet takes every interface there with it. -/
theorem through_of_contains {port : Port}
    (interface : port.isInterfaceOf routerId subnet.networkId = true)
    (on : port.subnetIds.contains subnet.id = true) :
    inventory.through subnet.networkId (.routerInterface routerId subnet.id) port = none := by
  have own : decide (port.deviceId = routerId) = true :=
    (Bool.and_eq_true_iff.mp (Bool.and_eq_true_iff.mp interface).1).2
  have drops : (Departing.routerInterface routerId subnet.id).dropsPort port = true := by
    rw [Departing.dropsPort, Port.onSubnet, own, on, Bool.or_true, Bool.and_true]
  rw [through, drops, Bool.not_true, Bool.and_false]
  rfl

/-- The rest of an interface that straddles leads where the router leads. -/
theorem through_left {port : Port}
    (interface : port.isInterfaceOf routerId subnet.networkId = true)
    (straddles : port.straddles subnet.id = true) :
    inventory.through subnet.networkId (.routerInterface routerId subnet.id)
        { port with subnetIds := port.subnetIds.filter (· ≠ subnet.id) } =
      inventory.ofRouter routerId .nothing := by
  obtain ⟨attached, here⟩ := Bool.and_eq_true_iff.mp interface
  obtain ⟨isInterface, own⟩ := Bool.and_eq_true_iff.mp attached
  have stays : (Departing.routerInterface routerId subnet.id).dropsPort
      { port with subnetIds := port.subnetIds.filter (· ≠ subnet.id) } = false := by
    rw [Departing.dropsPort, Port.onSubnet_left straddles, Bool.and_false]
  rw [through, stays, if_pos]
  · change inventory.ofRouter port.deviceId .nothing = _
    rw [of_decide_eq_true own]
  · exact Bool.and_eq_true_iff.mpr ⟨Bool.and_eq_true_iff.mpr ⟨isInterface, here⟩, rfl⟩

/-- While a router leaves a subnet, its interfaces there lead nowhere, but the rest of one does. -/
theorem through_leave (port : Port) :
    (if port.isInterfaceOf routerId subnet.networkId then port.leave subnet.id
        else some port).bind
      (inventory.through subnet.networkId (.routerInterface routerId subnet.id)) =
      if port.isInterfaceOf routerId subnet.networkId && port.straddles subnet.id then
        inventory.ofRouter routerId .nothing
      else inventory.through subnet.networkId (.routerInterface routerId subnet.id) port := by
  cases interface : port.isInterfaceOf routerId subnet.networkId with
  | false => rfl
  | true =>
    rw [if_pos rfl, Bool.true_and, Port.leave]
    cases on : port.subnetIds.contains subnet.id with
    | false =>
      rw [if_neg Bool.false_ne_true, Port.straddles, on]
      rfl
    | true =>
      rw [if_pos rfl]
      cases others : port.subnetIds.any (· ≠ subnet.id) with
      | true =>
        have straddles : port.straddles subnet.id = true := by
          rw [Port.straddles, on, others]
          rfl
        rw [if_pos rfl, if_pos straddles]
        exact inventory.through_left routerId subnet interface straddles
      | false =>
        have whole : port.straddles subnet.id = false := by
          rw [Port.straddles, others, Bool.and_false]
        rw [if_neg Bool.false_ne_true, whole, if_neg Bool.false_ne_true]
        exact (inventory.through_of_contains routerId subnet interface on).symm

/-- What the interfaces that stay lead to, and the rests of those that stand on the subnet. -/
theorem derived_detach :
    (inventory.detach routerId subnet).derived subnet.networkId
        (.routerInterface routerId subnet.id) =
      List.head? (inventory.ports.filterMap fun port =>
        if port.isInterfaceOf routerId subnet.networkId && port.straddles subnet.id then
          inventory.ofRouter routerId .nothing
        else inventory.through subnet.networkId (.routerInterface routerId subnet.id) port) := by
  rw [derived_eq_head?, detach, List.filterMap_filterMap]
  congr 2
  funext port
  exact inventory.through_leave routerId subnet port

variable {inventory routerId subnet}

/-- Without an interface that straddles, it does not matter whether the detachment shows. -/
theorem derived_detach_of_whole (whole : ¬inventory.Straddled routerId subnet) :
    (inventory.detach routerId subnet).derived subnet.networkId
        (.routerInterface routerId subnet.id) =
      inventory.derived subnet.networkId (.routerInterface routerId subnet.id) := by
  rw [derived_detach, derived_eq_head?]
  congr 1
  apply List.filterMap_congr
  intro port listed
  apply if_neg
  intro both
  exact whole ⟨port, listed, Bool.and_eq_true_iff.mp both⟩

/-- Once the detachment shows, the network is out of reach of all routers if it was before and no
interface that straddles leads to a BGPVPN. -/
theorem derived_detach_eq_none_iff :
    (inventory.detach routerId subnet).derived subnet.networkId
        (.routerInterface routerId subnet.id) = none ↔
      inventory.derived subnet.networkId (.routerInterface routerId subnet.id) = none ∧
        (inventory.Straddled routerId subnet → inventory.ofRouter routerId .nothing = none) := by
  rw [derived_detach, derived_eq_head?, List.head?_filterMap, List.head?_filterMap,
    List.findSome?_eq_none_iff, List.findSome?_eq_none_iff]
  constructor
  · intro nowhere
    refine ⟨fun port listed => ?_, fun ⟨port, listed, interface, straddles⟩ => ?_⟩
    · have leads := nowhere port listed
      split at leads
      · next both =>
        obtain ⟨interface, straddles⟩ := Bool.and_eq_true_iff.mp both
        exact inventory.through_of_contains routerId subnet interface
          (Bool.and_eq_true_iff.mp straddles).1
      · exact leads
    · have leads := nowhere port listed
      rwa [interface, straddles, Bool.true_and, if_pos rfl] at leads
  · rintro ⟨nowhere, nobody⟩ port listed
    split
    · next both => exact nobody ⟨port, listed, Bool.and_eq_true_iff.mp both⟩
    · exact nowhere port listed

theorem mem_connected_of_detach {networkId other : String}
    (reached : networkId ∈ (inventory.detach routerId subnet).connected other) :
    networkId ∈ inventory.connected other := by
  obtain ⟨port, listed, isInterface, own, on⟩ := mem_connected.mp reached
  obtain ⟨before, known, left⟩ := List.mem_filterMap.mp listed
  have same : port.deviceOwner = before.deviceOwner ∧ port.deviceId = before.deviceId ∧
      port.networkId = before.networkId := by
    split at left
    · rw [Port.leave] at left
      split at left
      · split at left
        · cases left
          exact ⟨rfl, rfl, rfl⟩
        · cases left
      · cases left
        exact ⟨rfl, rfl, rfl⟩
    · cases left
      exact ⟨rfl, rfl, rfl⟩
  obtain ⟨role, device, network⟩ := same
  refine mem_connected.mpr ⟨before, known, ?_, device.symm.trans own, network.symm.trans on⟩
  rw [← isInterface, Port.isRouterInterface, Port.isRouterInterface, role]

/-- With at most one BGPVPN behind the routers, a detachment that does not cut the network off may
show or not. -/
theorem owner_detach (clear : inventory.Unambiguous subnet.networkId)
    (joined : ¬inventory.CutsOff routerId subnet) :
    (inventory.detach routerId subnet).owner subnet.networkId
        (.routerInterface routerId subnet.id) =
      inventory.owner subnet.networkId (.routerInterface routerId subnet.id) := by
  have direct : (inventory.detach routerId subnet).direct subnet.networkId
      (.routerInterface routerId subnet.id) = inventory.direct subnet.networkId .nothing := rfl
  have direct' : inventory.direct subnet.networkId (.routerInterface routerId subnet.id) =
      inventory.direct subnet.networkId .nothing := rfl
  rw [owner, owner, direct, direct']
  cases listed : inventory.direct subnet.networkId .nothing with
  | cons first others => rfl
  | nil =>
    have free := direct_eq_nil_iff.mp listed
    rw [List.head?_nil, Option.none_or, Option.none_or]
    cases before : inventory.derived subnet.networkId (.routerInterface routerId subnet.id) with
    | none =>
      refine derived_detach_eq_none_iff.mpr ⟨before, fun straddled => ?_⟩
      by_contra leads
      exact joined ⟨free, straddled, Option.ne_none_iff_exists'.mp leads, before⟩
    | some bgpvpn =>
      cases after : (inventory.detach routerId subnet).derived subnet.networkId
          (.routerInterface routerId subnet.id) with
      | none =>
        rw [(derived_detach_eq_none_iff.mp after).1] at before
        cases before
      | some other =>
        obtain ⟨record, through, own, reached⟩ := routed_of_derived after
        have routed : inventory.Routed subnet.networkId other :=
          ⟨record, through, own, mem_connected_of_detach reached⟩
        rw [clear.routed free routed (routed_of_derived before)]

/-- A detachment that cuts a network off leaves it with nobody, until the detachment shows. -/
theorem CutsOff.owner (cuts : inventory.CutsOff routerId subnet) :
    inventory.owner subnet.networkId (.routerInterface routerId subnet.id) = none ∧
      (inventory.detach routerId subnet).owner subnet.networkId
        (.routerInterface routerId subnet.id) ≠ none := by
  have direct : inventory.direct subnet.networkId .nothing = [] := direct_eq_nil_iff.mpr cuts.free
  have shown : (inventory.detach routerId subnet).derived subnet.networkId
      (.routerInterface routerId subnet.id) ≠ none := by
    intro nowhere
    obtain ⟨bgpvpn, leads⟩ := cuts.leads
    rw [(derived_detach_eq_none_iff.mp nowhere).2 cuts.straddled] at leads
    cases leads
  constructor
  · change ((inventory.direct subnet.networkId .nothing).head?.or _) = none
    rw [direct, cuts.alone]
    rfl
  · change ((inventory.direct subnet.networkId .nothing).head?.or _) ≠ none
    rw [direct]
    exact shown

/-- Where an interface of the router stays, the network stays with the router's BGPVPN. -/
theorem owner_of_stays (clear : inventory.Unambiguous subnet.networkId)
    (free : ∀ other, ¬inventory.Direct subnet.networkId other) {bgpvpn : Bgpvpn}
    (leads : inventory.ofRouter routerId .nothing = some bgpvpn) {port : Port}
    (stays : port ∈ inventory.interfacesOn subnet.networkId (.routerInterface routerId subnet.id))
    (own : port.deviceId = routerId) :
    inventory.owner subnet.networkId (.routerInterface routerId subnet.id) = some bgpvpn := by
  have direct : inventory.direct subnet.networkId .nothing = [] := direct_eq_nil_iff.mpr free
  change ((inventory.direct subnet.networkId .nothing).head?.or _) = _
  rw [direct, List.head?_nil, Option.none_or]
  obtain ⟨listed, isInterface, on, _⟩ := mem_interfacesOn.mp stays
  obtain ⟨record, through, _⟩ := ofRouter_eq_some leads
  have routed : inventory.Routed subnet.networkId bgpvpn :=
    ⟨record, routerId, through, mem_connected.mpr ⟨port, listed, isInterface, own, on⟩⟩
  cases first : inventory.derived subnet.networkId (.routerInterface routerId subnet.id) with
  | some other => rw [clear.routed free (routed_of_derived first) routed]
  | none =>
    have nowhere := List.findSome?_eq_none_iff.mp first port stays
    rw [own] at nowhere
    cases leads.symm.trans nowhere

end EvpnMetadata.Topology.Inventory
