import EvpnMetadata.Deployment
import EvpnMetadata.Switch.Memory
import EvpnMetadata.Switch.Naming
import EvpnMetadata.Topology.Inventory

/-! # Sites

A site is a deployment in memory: an inventory of the topology and the switches beside it.
-/

namespace EvpnMetadata

open EvpnMetadata.Topology Switch

structure Site where
  inventory : Inventory := {}
  switches : Memory := {}
  deriving DecidableEq, Repr, Inhabited

namespace Site

def deployment : Deployment Site where
  topology := Inventory.source.comap inventory
  store := Memory.backend.onPart switches fun site switches => { site with switches }

/-- Makes the switch of a network, under a fresh uuid. -/
def withNetwork (naming : Naming) (site : Site) (networkId uuid : String) : Site :=
  { site with switches := site.switches.add (naming.logicalName networkId) uuid }

def withRouterInterface (site : Site) (routerId networkId subnetId : String) : Site :=
  { site with inventory := site.inventory.attach routerId networkId subnetId }

def withBgpvpn (site : Site) (bgpvpn : Vpn.Bgpvpn) : Site :=
  { site with inventory := site.inventory.putBgpvpn bgpvpn }

/-- Sets a key on the switch of a network as another writer would. -/
def setForeignKey (naming : Naming) (site : Site) (networkId key value : String) : Site :=
  { site with switches := site.switches.setKey (naming.logicalName networkId) key value }

end Site

end EvpnMetadata
