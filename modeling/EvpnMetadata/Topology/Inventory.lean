import EvpnMetadata.Topology.Query

/-! # Inventories

A topology held in memory.  Each kind of object is listed in the order of first insertion; storing
an object again keeps its place.
-/

namespace EvpnMetadata.Topology

open Vpn

/-- Replaces the first item that is the same, or appends the item. -/
def upsert (same : α → Bool) (item : α) : List α → List α
  | [] => [item]
  | first :: rest => if same first then item :: rest else first :: upsert same item rest

/-- Changes the first item that is the same. -/
def modifyFirst (same : α → Bool) (change : α → α) : List α → List α
  | [] => []
  | first :: rest => if same first then change first :: rest
    else first :: modifyFirst same change rest

structure Inventory where
  routers : List Router := []
  ports : List Port := []
  subnets : List Subnet := []
  bgpvpns : List Bgpvpn := []
  deriving DecidableEq, Repr, Inhabited

namespace Inventory

def addRouter (inventory : Inventory) (routerId : String) : Inventory :=
  { inventory with
    routers := upsert (fun router => router.id = routerId) { id := routerId } inventory.routers }

def removeRouter (inventory : Inventory) (routerId : String) : Inventory :=
  { inventory with routers := inventory.routers.filter fun router => router.id ≠ routerId }

def addSubnet (inventory : Inventory) (subnetId networkId : String) : Inventory :=
  { inventory with
    subnets := upsert (fun subnet => subnet.id = subnetId) { id := subnetId, networkId }
      inventory.subnets }

def addPort (inventory : Inventory) (port : Port) : Inventory :=
  { inventory with ports := upsert (fun other => other.id = port.id) port inventory.ports }

def removePort (inventory : Inventory) (portId : String) : Inventory :=
  { inventory with ports := inventory.ports.filter fun port => port.id ≠ portId }

/-- Stores a BGPVPN together with its associations. -/
def putBgpvpn (inventory : Inventory) (bgpvpn : Bgpvpn) : Inventory :=
  { inventory with
    bgpvpns := upsert (fun other => other.id = bgpvpn.id) bgpvpn inventory.bgpvpns }

def removeBgpvpn (inventory : Inventory) (bgpvpnId : String) : Inventory :=
  { inventory with bgpvpns := inventory.bgpvpns.filter fun bgpvpn => bgpvpn.id ≠ bgpvpnId }

def modifyBgpvpn (inventory : Inventory) (bgpvpnId : String) (change : Bgpvpn → Bgpvpn) :
    Inventory :=
  { inventory with
    bgpvpns := modifyFirst (fun bgpvpn => bgpvpn.id = bgpvpnId) change inventory.bgpvpns }

def associateNetwork (inventory : Inventory) (bgpvpnId networkId : String) : Inventory :=
  inventory.modifyBgpvpn bgpvpnId fun bgpvpn =>
    if bgpvpn.hasNetwork networkId then bgpvpn else bgpvpn.withNetwork networkId

def dissociateNetwork (inventory : Inventory) (bgpvpnId networkId : String) : Inventory :=
  inventory.modifyBgpvpn bgpvpnId fun bgpvpn =>
    { bgpvpn with networks := bgpvpn.networks.filter (· ≠ networkId) }

def associateRouter (inventory : Inventory) (bgpvpnId routerId : String) : Inventory :=
  inventory.modifyBgpvpn bgpvpnId fun bgpvpn =>
    if bgpvpn.hasRouter routerId then bgpvpn else bgpvpn.withRouter routerId

def dissociateRouter (inventory : Inventory) (bgpvpnId routerId : String) : Inventory :=
  inventory.modifyBgpvpn bgpvpnId fun bgpvpn =>
    { bgpvpn with routers := bgpvpn.routers.filter (· ≠ routerId) }

/-- The port under which a router is attached to a subnet. -/
def interfacePort (routerId networkId subnetId : String) : Port :=
  .routerInterface (routerId ++ "-" ++ subnetId) routerId networkId subnetId

/-- Attaches a router to a network on a subnet. -/
def attach (inventory : Inventory) (routerId networkId subnetId : String) : Inventory :=
  ((inventory.addRouter routerId).addSubnet subnetId networkId).addPort
    (interfacePort routerId networkId subnetId)

/-- Every query on an inventory is answered. -/
def source : Source Inventory where
  router inventory id := .ok (inventory.routers.find? fun router => router.id = id)
  subnet inventory id := .ok (inventory.subnets.find? fun subnet => subnet.id = id)
  bgpvpn inventory id := .ok (inventory.bgpvpns.find? fun bgpvpn => bgpvpn.id = id)
  ports inventory filter := .ok (inventory.ports.filter filter.admits)
  bgpvpns inventory filter := .ok (inventory.bgpvpns.filter filter.admits)

end Inventory

end EvpnMetadata.Topology
