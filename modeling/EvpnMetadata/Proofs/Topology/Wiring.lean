import EvpnMetadata.Proofs.Topology.Inventory

/-! # Wiring

Router interfaces as attaching leaves them: the router is recorded, the subnets of the interface
lie on its network, and a router stands at most once on a subnet.
-/

namespace EvpnMetadata.Topology.Inventory

open Vpn

def attachThrough (inventory : Inventory) (portId routerId networkId subnetId : String) :
    Inventory :=
  ((inventory.addRouter routerId).addSubnet subnetId networkId).addPort
    (.routerInterface portId routerId networkId subnetId)

structure Wired (inventory : Inventory) : Prop where
  known {port : Port} (listed : port ∈ inventory.ports)
    (isInterface : port.isRouterInterface = true) :
    port.deviceId ∈ inventory.routers.map Router.id
  placed {port : Port} (listed : port ∈ inventory.ports)
    (isInterface : port.isRouterInterface = true) {subnetId : String}
    (on : subnetId ∈ port.subnetIds) : ⟨subnetId, port.networkId⟩ ∈ inventory.subnets
  single {first second : Port} (listed : first ∈ inventory.ports)
    (listed' : second ∈ inventory.ports) (isInterface : first.isRouterInterface = true)
    (isInterface' : second.isRouterInterface = true)
    (sameRouter : first.deviceId = second.deviceId)
    (sameNetwork : first.networkId = second.networkId) {subnetId : String}
    (on : first.onSubnet subnetId = true) (on' : second.onSubnet subnetId = true) :
    first = second

variable {inventory : Inventory}

theorem wired_of_ports_eq_nil (none : inventory.ports = []) : inventory.Wired := by
  constructor <;> simp [none]

/-- Only ports, routers and subnets matter. -/
theorem Wired.congr (wired : inventory.Wired) {later : Inventory}
    (ports : later.ports = inventory.ports) (routers : later.routers = inventory.routers)
    (subnets : later.subnets = inventory.subnets) : later.Wired := by
  constructor
  · rw [ports, routers]
    exact wired.known
  · rw [ports, subnets]
    exact wired.placed
  · rw [ports]
    exact wired.single

theorem Wired.removePort (wired : inventory.Wired) (portId : String) :
    (inventory.removePort portId).Wired where
  known listed := wired.known (List.mem_of_mem_filter listed)
  placed listed := wired.placed (List.mem_of_mem_filter listed)
  single listed listed' := wired.single (List.mem_of_mem_filter listed)
    (List.mem_of_mem_filter listed')

theorem ports_attachThrough {portId : String} (fresh : portId ∉ inventory.ports.map Port.id)
    (routerId networkId subnetId : String) :
    (inventory.attachThrough portId routerId networkId subnetId).ports =
      inventory.ports ++ [.routerInterface portId routerId networkId subnetId] :=
  upsert_of_fresh fresh

theorem onSubnet_routerInterface {portId routerId networkId subnetId other : String}
    (on : (Port.routerInterface portId routerId networkId subnetId).onSubnet other = true) :
    other = subnetId := by
  simpa [Port.onSubnet, Port.routerInterface] using on

/-- A router may be attached to a subnet on which it does not stand, as long as the subnet stays on
its network. -/
theorem Wired.attachThrough (wired : inventory.Wired) {portId routerId networkId subnetId : String}
    (fresh : portId ∉ inventory.ports.map Port.id)
    (steady : ∀ subnet ∈ inventory.subnets, subnet.id = subnetId → subnet.networkId = networkId)
    (vacant : ∀ port ∈ inventory.ports, port.isRouterInterface = true → port.deviceId = routerId →
      port.networkId = networkId → port.onSubnet subnetId = false) :
    (inventory.attachThrough portId routerId networkId subnetId).Wired := by
  have cases {port : Port}
      (listed : port ∈ (inventory.attachThrough portId routerId networkId subnetId).ports) :
      port ∈ inventory.ports ∨ port = .routerInterface portId routerId networkId subnetId := by
    rw [ports_attachThrough fresh] at listed
    exact (List.mem_append.mp listed).imp id List.mem_singleton.mp
  have apart {port : Port} (listed : port ∈ inventory.ports)
      (isInterface : port.isRouterInterface = true) (sameRouter : port.deviceId = routerId)
      (sameNetwork : port.networkId = networkId) {other : String}
      (on : port.onSubnet other = true)
      (on' : (Port.routerInterface portId routerId networkId subnetId).onSubnet other = true) :
      False := by
    rw [onSubnet_routerInterface on'] at on
    rw [vacant port listed isInterface sameRouter sameNetwork] at on
    cases on
  constructor
  case known =>
    intro port listed isInterface
    apply (mem_map_upsert : _ ∈ List.map Router.id (upsert _ (Router.mk routerId "") _) ↔ _).mpr
    rcases cases listed with old | rfl
    · exact .inr (wired.known old isInterface)
    · exact .inl rfl
  case placed =>
    intro port listed isInterface other on
    change _ ∈ upsert _ (Subnet.mk subnetId networkId) inventory.subnets
    rcases cases listed with old | rfl
    · have there := wired.placed old isInterface on
      refine mem_upsert_of_mem there fun same => ?_
      have named : other = subnetId := of_decide_eq_true same
      rw [← steady _ there named, named]
    · rw [List.mem_singleton.mp on]
      exact mem_upsert_self
  case single =>
    intro first second listed listed' isInterface isInterface' sameRouter sameNetwork other on on'
    rcases cases listed with old | rfl <;> rcases cases listed' with old' | rfl
    · exact wired.single old old' isInterface isInterface' sameRouter sameNetwork on on'
    · exact (apart old isInterface sameRouter sameNetwork on on').elim
    · exact (apart old' isInterface' sameRouter.symm sameNetwork.symm on' on).elim
    · rfl

theorem Wired.find?_subnet (wired : inventory.Wired) (keyed : inventory.Keyed) {port : Port}
    (listed : port ∈ inventory.ports) (isInterface : port.isRouterInterface = true)
    {subnetId : String} (on : subnetId ∈ port.subnetIds) :
    (inventory.subnets.find? fun subnet => subnet.id = subnetId) =
      some ⟨subnetId, port.networkId⟩ :=
  (find?_eq_some_iff keyed.subnets).mpr ⟨wired.placed listed isInterface on, rfl⟩

end EvpnMetadata.Topology.Inventory
