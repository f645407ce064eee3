import EvpnMetadata.Json.Record

/-! # Routers, ports and subnets

The parts of the network topology through which a BGPVPN reaches a network.
-/

namespace EvpnMetadata.Vpn

structure Router where
  id : String
  name : String := ""
  deriving DecidableEq, Repr, Inhabited

structure Subnet where
  id : String
  networkId : String
  deriving DecidableEq, Repr, Inhabited

structure Port where
  id : String
  networkId : String
  deviceId : String := ""
  deviceOwner : String := ""
  subnetIds : List String := []
  deriving DecidableEq, Repr, Inhabited

/-- The owner role of a port that connects a router to a network. -/
def routerInterfaceOwner : String := "network:router_interface"

namespace Port

/-- The port that connects a router to a network on one subnet. -/
def routerInterface (id routerId networkId subnetId : String) : Port where
  id := id
  networkId := networkId
  deviceId := routerId
  deviceOwner := routerInterfaceOwner
  subnetIds := [subnetId]

def isRouterInterface (port : Port) : Bool := port.deviceOwner = routerInterfaceOwner

/-- A port without any listed subnet counts as on every one. -/
def onSubnet (port : Port) (subnetId : String) : Bool :=
  port.subnetIds.isEmpty || port.subnetIds.contains subnetId

def fieldNames : List String := ["id", "network_id", "device_id", "device_owner", "subnet_ids"]

def toJson (port : Port) : Json := .record [
  ("id", .text port.id), ("network_id", .text port.networkId), ("device_id", .text port.deviceId),
  ("device_owner", .text port.deviceOwner), ("subnet_ids", .texts port.subnetIds)]

def ofJson? (value : Json) : Option Port := do
  match ← value.fields? fieldNames with
  | [id, networkId, deviceId, deviceOwner, subnetIds] => return {
      id := ← Json.required Json.text? id
      networkId := ← Json.required Json.text? networkId
      deviceId := ← Json.withDefault "" Json.text? deviceId
      deviceOwner := ← Json.withDefault "" Json.text? deviceOwner
      subnetIds := ← Json.withDefault [] Json.texts? subnetIds }
  | _ => none

end Port

namespace Router

def fieldNames : List String := ["id", "name"]

def toJson (router : Router) : Json :=
  .record [("id", .text router.id), ("name", .text router.name)]

def ofJson? (value : Json) : Option Router := do
  match ← value.fields? fieldNames with
  | [id, name] => return {
      id := ← Json.required Json.text? id
      name := ← Json.withDefault "" Json.text? name }
  | _ => none

end Router

namespace Subnet

def fieldNames : List String := ["id", "network_id"]

def toJson (subnet : Subnet) : Json :=
  .record [("id", .text subnet.id), ("network_id", .text subnet.networkId)]

def ofJson? (value : Json) : Option Subnet := do
  match ← value.fields? fieldNames with
  | [id, networkId] => return {
      id := ← Json.required Json.text? id
      networkId := ← Json.required Json.text? networkId }
  | _ => none

end Subnet

end EvpnMetadata.Vpn
