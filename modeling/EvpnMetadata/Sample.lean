import EvpnMetadata.Lifecycle.Event
import EvpnMetadata.Text.Digits

/-! # Sample records

BGPVPNs and events that exercise the usual combinations of attributes.
-/

namespace EvpnMetadata.Sample

open Vpn Lifecycle

/-- A layer-three BGPVPN with one route target, made of an autonomous system and the VNI. -/
def l3 (id : String) (asNumber vni : UInt32) : Bgpvpn where
  id := id
  vpnType := "l3"
  vni := some vni
  routeTargets := [Text.Decimal.write asNumber.toNat ++ ":" ++ Text.Decimal.write vni.toNat]

/-- A layer-two BGPVPN without route targets. -/
def l2 (id : String) (vni : UInt32) : Bgpvpn where
  id := id
  vpnType := "l2"
  vni := some vni

/-- A layer-three BGPVPN with every optional attribute. -/
def l3Full (id : String) : Bgpvpn where
  id := id
  name := "full"
  vpnType := "l3"
  vni := some 4242
  routeTargets := ["64512:1", "64512:2"]
  importTargets := ["64512:10"]
  exportTargets := ["64512:20"]
  routeDistinguishers := ["10.0.0.1:100"]
  localPref := some 150

def v1 : Bgpvpn where
  id := "v1"
  vpnType := "L3"
  vni := some 5000
  routeTargets := ["65000:1"]

def associateNetwork (phase : Phase) (bgpvpnId networkId : String) : Event :=
  .networkAssociationCreate phase (.between bgpvpnId networkId)

def dissociateNetwork (phase : Phase) (bgpvpnId networkId : String) : Event :=
  .networkAssociationDelete phase (.between bgpvpnId networkId)

def associateRouter (phase : Phase) (bgpvpnId routerId : String) : Event :=
  .routerAssociationCreate phase (.between bgpvpnId routerId)

def dissociateRouter (phase : Phase) (bgpvpnId routerId : String) : Event :=
  .routerAssociationDelete phase (.between bgpvpnId routerId)

def interfaceAdded (routerId : String) (port : Port) : Event :=
  .routerInterfaceCreated routerId port

def interfaceRemoved (routerId subnetId : String) : Event :=
  .routerInterfaceDeleted routerId subnetId

end EvpnMetadata.Sample
