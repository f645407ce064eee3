import EvpnMetadata.Procedure
import EvpnMetadata.Text.Quoted

/-! # Resolution

Which BGPVPN a network has to carry: the first one associated with it directly, else the first one
reached through a router with an interface on the network.  An object that is about to leave is
skipped, although the topology still shows it.
-/

namespace EvpnMetadata.Reconcile

open Vpn EvpnMetadata.Topology

/-- An object that is about to be removed. -/
inductive Departing where
  | nothing
  | bgpvpn (id : String)
  | networkAssociation (bgpvpnId networkId : String)
  | routerAssociation (bgpvpnId routerId : String)
  | routerInterface (routerId subnetId : String)
  deriving DecidableEq, Repr

namespace Departing

def dropsBgpvpn (departing : Departing) (bgpvpnId : String) : Bool :=
  match departing with
  | bgpvpn id => id = bgpvpnId
  | _ => false

/-- The direct association of a BGPVPN and a network is leaving. -/
def dropsDirect (departing : Departing) (bgpvpnId networkId : String) : Bool :=
  departing.dropsBgpvpn bgpvpnId ||
    match departing with
    | networkAssociation b n => b = bgpvpnId && n = networkId
    | _ => false

/-- The association of a BGPVPN and a router is leaving. -/
def dropsThroughRouter (departing : Departing) (bgpvpnId routerId : String) : Bool :=
  departing.dropsBgpvpn bgpvpnId ||
    match departing with
    | routerAssociation b r => b = bgpvpnId && r = routerId
    | _ => false

/-- The router interface that a port stands for is leaving. -/
def dropsPort (departing : Departing) (port : Port) : Bool :=
  match departing with
  | routerInterface routerId subnetId => port.deviceId = routerId && port.onSubnet subnetId
  | _ => false

end Departing

/-- Keeps the first of several equal items, in order. -/
def firsts [DecidableEq β] (key : α → β) : List α → List α
  | [] => []
  | item :: rest => item :: (firsts key rest).filter fun other => key other ≠ key item

def resolveBgpvpn (bgpvpnId : String) : Attempt Bgpvpn := do
  match ← Attempt.bgpvpn bgpvpnId with
  | some bgpvpn => return bgpvpn
  | none => throw (.unknownBgpvpn bgpvpnId)

/-- The BGPVPNs associated with a network directly. -/
def directBgpvpns (networkId : String) (departing : Departing) : Attempt (List Bgpvpn) := do
  let bgpvpns ← Attempt.bgpvpns (.network networkId)
  return bgpvpns.filter fun bgpvpn => !departing.dropsDirect bgpvpn.id networkId

/-- The first BGPVPN associated with a router; several are reported. -/
def routerBgpvpn (routerId : String) (departing : Departing) : Attempt (Option Bgpvpn) := do
  let listed ← Attempt.bgpvpns (.router routerId)
  match listed.filter fun bgpvpn => !departing.dropsThroughRouter bgpvpn.id routerId with
  | [] => return none
  | [bgpvpn] => return some bgpvpn
  | bgpvpn :: _ =>
    Attempt.log .warn ("Router associated with several BGPVPNs, using " ++ bgpvpn.id)
    return some bgpvpn

/-- The routers with an interface on a network, in listing order. -/
def routersOfNetwork (networkId : String) (departing : Departing) : Attempt (List String) := do
  let ports ← Attempt.ports (.routerInterfacesOn networkId)
  return firsts id ((ports.filter fun port => !departing.dropsPort port).map Port.deviceId)

/-- The BGPVPN that reaches a network through its routers; several are reported. -/
def routerDerived (networkId : String) (departing : Departing) : Attempt (Option Bgpvpn) := do
  let routers ← routersOfNetwork networkId departing
  let reached ← routers.mapM fun routerId => routerBgpvpn routerId departing
  match firsts Bgpvpn.id (reached.filterMap id) with
  | [] => return none
  | [bgpvpn] => return some bgpvpn
  | bgpvpn :: others =>
    Attempt.log .warn ("Network reachable from BGPVPNs "
      ++ Text.Quoted.list ((bgpvpn :: others).map Bgpvpn.id)
      ++ " through different routers, using " ++ bgpvpn.id)
    return some bgpvpn

/-- The BGPVPN that a network has to carry, if any; a direct association wins. -/
def effective (networkId : String) (departing : Departing) : Attempt (Option Bgpvpn) := do
  match ← directBgpvpns networkId departing with
  | direct :: _ => return some direct
  | [] => routerDerived networkId departing

/-- The networks on which a router has an interface, each once. -/
def connectedNetworks (routerId : String) : Attempt (List String) := do
  let ports ← Attempt.ports (.routerInterfacesOf routerId)
  return firsts id (ports.map Port.networkId)

end EvpnMetadata.Reconcile
