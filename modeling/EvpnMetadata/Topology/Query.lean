import EvpnMetadata.Fault
import EvpnMetadata.Vpn.Bgpvpn
import EvpnMetadata.Vpn.Network

/-! # Topology queries

The questions that may be asked about the topology, with their filters, and a source as the record
of its five answers.  A query reflects the state at the moment it is asked.
-/

namespace EvpnMetadata.Topology

open Vpn

/-- A filter on ports; a part that is not given matches anything. -/
structure PortFilter where
  deviceId : Option String := none
  deviceOwner : Option String := none
  networkId : Option String := none
  deriving DecidableEq, Repr, Inhabited

namespace PortFilter

def routerInterfacesOf (routerId : String) : PortFilter where
  deviceId := some routerId
  deviceOwner := some routerInterfaceOwner

def routerInterfacesOn (networkId : String) : PortFilter where
  deviceOwner := some routerInterfaceOwner
  networkId := some networkId

def agrees (wanted : Option String) (actual : String) : Bool :=
  match wanted with
  | none => true
  | some value => value = actual

def admits (filter : PortFilter) (port : Port) : Bool :=
  agrees filter.deviceId port.deviceId && agrees filter.deviceOwner port.deviceOwner
    && agrees filter.networkId port.networkId

end PortFilter

/-- A filter on BGPVPNs by any of the networks, or any of the routers, they are associated with. -/
inductive BgpvpnFilter where
  | all
  | networks (ids : List String)
  | routers (ids : List String)
  deriving DecidableEq, Repr, Inhabited

namespace BgpvpnFilter

def network (networkId : String) : BgpvpnFilter := .networks [networkId]

def router (routerId : String) : BgpvpnFilter := .routers [routerId]

def admits (filter : BgpvpnFilter) (bgpvpn : Bgpvpn) : Bool :=
  match filter with
  | .all => true
  | .networks ids => ids.any bgpvpn.hasNetwork
  | .routers ids => ids.any bgpvpn.hasRouter

end BgpvpnFilter

/-- The answers of a topology held in a state. -/
structure Source (σ : Type) where
  router : σ → String → Except Fault (Option Router)
  subnet : σ → String → Except Fault (Option Subnet)
  bgpvpn : σ → String → Except Fault (Option Bgpvpn)
  ports : σ → PortFilter → Except Fault (List Port)
  bgpvpns : σ → BgpvpnFilter → Except Fault (List Bgpvpn)

/-- A source on a part of a larger state. -/
def Source.comap (source : Source τ) (part : σ → τ) : Source σ where
  router state := source.router (part state)
  subnet state := source.subnet (part state)
  bgpvpn state := source.bgpvpn (part state)
  ports state := source.ports (part state)
  bgpvpns state := source.bgpvpns (part state)

end EvpnMetadata.Topology
