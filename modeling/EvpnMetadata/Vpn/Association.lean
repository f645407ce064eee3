import EvpnMetadata.Json.Record

/-! # Associations

An association ties a BGPVPN to a network, a router or a port.
-/

namespace EvpnMetadata.Vpn

structure NetworkAssociation where
  id : String := ""
  bgpvpnId : String
  networkId : String
  deriving DecidableEq, Repr, Inhabited

structure RouterAssociation where
  id : String := ""
  bgpvpnId : String
  routerId : String
  advertiseExtraRoutes : Bool := false
  deriving DecidableEq, Repr, Inhabited

structure PortAssociation where
  id : String := ""
  bgpvpnId : String
  portId : String
  advertiseFixedIps : Bool := false
  deriving DecidableEq, Repr, Inhabited

namespace NetworkAssociation

/-- An association is identified by the two things it ties together. -/
def between (bgpvpnId networkId : String) : NetworkAssociation where
  id := bgpvpnId ++ "-" ++ networkId
  bgpvpnId := bgpvpnId
  networkId := networkId

def fieldNames : List String := ["id", "bgpvpn_id", "network_id"]

def toJson (association : NetworkAssociation) : Json := .record [
  ("id", .text association.id), ("bgpvpn_id", .text association.bgpvpnId),
  ("network_id", .text association.networkId)]

def ofJson? (value : Json) : Option NetworkAssociation := do
  match ← value.fields? fieldNames with
  | [id, bgpvpnId, networkId] => return {
      id := ← Json.withDefault "" Json.text? id
      bgpvpnId := ← Json.required Json.text? bgpvpnId
      networkId := ← Json.required Json.text? networkId }
  | _ => none

end NetworkAssociation

namespace RouterAssociation

def between (bgpvpnId routerId : String) : RouterAssociation where
  id := bgpvpnId ++ "-" ++ routerId
  bgpvpnId := bgpvpnId
  routerId := routerId

def fieldNames : List String := ["id", "bgpvpn_id", "router_id", "advertise_extra_routes"]

def toJson (association : RouterAssociation) : Json := .record [
  ("id", .text association.id), ("bgpvpn_id", .text association.bgpvpnId),
  ("router_id", .text association.routerId),
  ("advertise_extra_routes", .bool association.advertiseExtraRoutes)]

def ofJson? (value : Json) : Option RouterAssociation := do
  match ← value.fields? fieldNames with
  | [id, bgpvpnId, routerId, advertiseExtraRoutes] => return {
      id := ← Json.withDefault "" Json.text? id
      bgpvpnId := ← Json.required Json.text? bgpvpnId
      routerId := ← Json.required Json.text? routerId
      advertiseExtraRoutes := ← Json.withDefault false Json.bool? advertiseExtraRoutes }
  | _ => none

end RouterAssociation

namespace PortAssociation

def fieldNames : List String := ["id", "bgpvpn_id", "port_id", "advertise_fixed_ips"]

def toJson (association : PortAssociation) : Json := .record [
  ("id", .text association.id), ("bgpvpn_id", .text association.bgpvpnId),
  ("port_id", .text association.portId),
  ("advertise_fixed_ips", .bool association.advertiseFixedIps)]

def ofJson? (value : Json) : Option PortAssociation := do
  match ← value.fields? fieldNames with
  | [id, bgpvpnId, portId, advertiseFixedIps] => return {
      id := ← Json.withDefault "" Json.text? id
      bgpvpnId := ← Json.required Json.text? bgpvpnId
      portId := ← Json.required Json.text? portId
      advertiseFixedIps := ← Json.withDefault false Json.bool? advertiseFixedIps }
  | _ => none

end PortAssociation

end EvpnMetadata.Vpn
