import EvpnMetadata.Fault
import EvpnMetadata.Json.Record

/-! # BGPVPNs

A BGPVPN joins networks and routers into one layer-two or layer-three VPN, identified on the wire
by its VNI and its route targets.
-/

namespace EvpnMetadata.Vpn

inductive VpnType where
  | l2
  | l3
  deriving DecidableEq, Repr

/-- The name under which this driver reports what it does not support. -/
def driverName : String := "ovn"

/-- The largest VNI, of 24 bits. -/
def largestVni : UInt32 := 16777215

namespace VpnType

def name : VpnType → String
  | l2 => "l2"
  | l3 => "l3"

def ofName? : String → Option VpnType
  | "l2" => some l2
  | "l3" => some l3
  | _ => none

/-- Reads a type in any ASCII letter case. -/
def ofText? (text : String) : Option VpnType := ofName? text.toLower

def ofText (text : String) : Except Fault VpnType :=
  match ofText? text with
  | some vpnType => .ok vpnType
  | none => .error (.unsupportedType driverName text)

def toJson (vpnType : VpnType) : Json := .text vpnType.name

/-- The exact lower-case name, alone or as the only key of an object with a null. -/
def ofJson? (value : Json) : Option VpnType := (value.unitName? Json.isNull).bind ofName?

end VpnType

structure Bgpvpn where
  id : String
  name : String := ""
  vpnType : String
  vni : Option UInt32 := none
  routeTargets : List String := []
  importTargets : List String := []
  exportTargets : List String := []
  routeDistinguishers : List String := []
  localPref : Option UInt32 := none
  networks : List String := []
  routers : List String := []
  ports : List String := []
  projectId : String := ""
  tenantId : String := ""
  deriving DecidableEq, Repr, Inhabited

namespace Bgpvpn

/-- The type, if its text names one. -/
def type (bgpvpn : Bgpvpn) : Except Fault VpnType := VpnType.ofText bgpvpn.vpnType

def hasNetwork (bgpvpn : Bgpvpn) (networkId : String) : Bool := bgpvpn.networks.contains networkId

def hasRouter (bgpvpn : Bgpvpn) (routerId : String) : Bool := bgpvpn.routers.contains routerId

def withNetwork (bgpvpn : Bgpvpn) (networkId : String) : Bgpvpn :=
  { bgpvpn with networks := bgpvpn.networks ++ [networkId] }

def withRouter (bgpvpn : Bgpvpn) (routerId : String) : Bgpvpn :=
  { bgpvpn with routers := bgpvpn.routers ++ [routerId] }

/-- The project is kept under its older name, tenant, as well. -/
def withProject (bgpvpn : Bgpvpn) (projectId : String) : Bgpvpn :=
  { bgpvpn with projectId := projectId, tenantId := projectId }

/-- The value of one field, apart from its name. -/
inductive Field where
  | text (value : String)
  | number (value : UInt32)
  | texts (values : List String)
  deriving DecidableEq, Repr

def Field.toJson : Field → Json
  | .text value => .text value
  | .number value => .nat value.toNat
  | .texts values => .texts values

def fieldNames : List String :=
  ["id", "name", "type", "vni", "route_targets", "import_targets", "export_targets",
   "route_distinguishers", "local_pref", "networks", "routers", "ports", "project_id", "tenant_id"]

/-- The fields that are set, in declared order; only a VNI and a local preference can be unset. -/
def setFields (bgpvpn : Bgpvpn) : List (String × Field) :=
  [("id", .text bgpvpn.id), ("name", .text bgpvpn.name), ("type", .text bgpvpn.vpnType)]
    ++ (bgpvpn.vni.map fun vni => ("vni", Field.number vni)).toList
    ++ [("route_targets", .texts bgpvpn.routeTargets),
        ("import_targets", .texts bgpvpn.importTargets),
        ("export_targets", .texts bgpvpn.exportTargets),
        ("route_distinguishers", .texts bgpvpn.routeDistinguishers)]
    ++ (bgpvpn.localPref.map fun pref => ("local_pref", Field.number pref)).toList
    ++ [("networks", .texts bgpvpn.networks), ("routers", .texts bgpvpn.routers),
        ("ports", .texts bgpvpn.ports), ("project_id", .text bgpvpn.projectId),
        ("tenant_id", .text bgpvpn.tenantId)]

def toJson (bgpvpn : Bgpvpn) : Json :=
  .record (bgpvpn.setFields.map fun field => (field.1, field.2.toJson))

def ofJson? (value : Json) : Option Bgpvpn := do
  match ← value.fields? fieldNames with
  | [id, name, vpnType, vni, routeTargets, importTargets, exportTargets, routeDistinguishers,
      localPref, networks, routers, ports, projectId, tenantId] => return {
      id := ← Json.required Json.text? id
      name := ← Json.withDefault "" Json.text? name
      vpnType := ← Json.required Json.text? vpnType
      vni := ← Json.withDefault none (Json.nullable Json.uint32?) vni
      routeTargets := ← Json.withDefault [] Json.texts? routeTargets
      importTargets := ← Json.withDefault [] Json.texts? importTargets
      exportTargets := ← Json.withDefault [] Json.texts? exportTargets
      routeDistinguishers := ← Json.withDefault [] Json.texts? routeDistinguishers
      localPref := ← Json.withDefault none (Json.nullable Json.uint32?) localPref
      networks := ← Json.withDefault [] Json.texts? networks
      routers := ← Json.withDefault [] Json.texts? routers
      ports := ← Json.withDefault [] Json.texts? ports
      projectId := ← Json.withDefault "" Json.text? projectId
      tenantId := ← Json.withDefault "" Json.text? tenantId }
  | _ => none

end Bgpvpn

end EvpnMetadata.Vpn
