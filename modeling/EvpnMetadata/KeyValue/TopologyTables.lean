import EvpnMetadata.Json.Record
import EvpnMetadata.KeyValue.Database
import EvpnMetadata.Text.Digits
import EvpnMetadata.Text.Leading
import EvpnMetadata.Topology.Query

/-! # Topology tables

The topology is kept in a database with each object as a hash under its table and id.  Lists are
kept as JSON texts, numbers as decimals, and a field that is empty or left out is unset.
-/

namespace EvpnMetadata.KeyValue.TopologyTables

open Vpn EvpnMetadata.Topology

def refused (command argument : String) : Fault :=
  .queryFailed (command ++ " " ++ argument) refusal

/-- The hash of an object, if there is one. -/
def fetch (database : Database) (table id : String) : Except Fault (Option Hash) :=
  let key := table ++ "|" ++ id
  match database.hash? key with
  | none => .error (refused "HGETALL" key)
  | some fields => .ok (if fields.isEmpty then none else some fields)

/-- Every object of a table, in the order of ids. -/
def fetchAll (database : Database) (table : String) : Except Fault (List (String × Hash)) := do
  let keys := database.keysLike (table ++ "|*")
  let ids := (FiniteMap.ofKeys (keys.filterMap (Text.after? (table ++ "|")))).keys
  let objects ← ids.mapM fun id => do return (id, ← fetch database table id)
  return objects.filterMap fun object => object.2.map (object.1, ·)

def text (fields : Hash) (name : String) : String := fields.getD name ""

def texts (fields : Hash) (name : String) : Except Fault (List String) :=
  let raw := text fields name
  if raw.isEmpty then .ok []
  else
    match Json.readTexts? raw with
    | some items => .ok items
    | none => .error (.malformedMetadata name Json.refusal)

def number (fields : Hash) (name : String) : Except Fault (Option UInt32) :=
  let raw := text fields name
  if raw.isEmpty then .ok none
  else
    match Text.Decimal.readUInt32 raw with
    | .ok n => .ok (some n)
    | .error _ => .error (.malformedMetadata name ("not a number: " ++ raw))

def router (id : String) (fields : Hash) : Router where
  id := id
  name := text fields "name"

def subnet (id : String) (fields : Hash) : Subnet where
  id := id
  networkId := text fields "network_id"

def port (id : String) (fields : Hash) : Except Fault Port := do
  return {
    id
    networkId := text fields "network_id"
    deviceId := text fields "device_id"
    deviceOwner := text fields "device_owner"
    subnetIds := ← texts fields "subnet_ids" }

/-- The first malformed field, in this order, decides the fault. -/
def bgpvpn (id : String) (fields : Hash) : Except Fault Bgpvpn := do
  return {
    id
    name := text fields "name"
    vpnType := text fields "type"
    vni := ← number fields "vni"
    routeTargets := ← texts fields "route_targets"
    importTargets := ← texts fields "import_targets"
    exportTargets := ← texts fields "export_targets"
    routeDistinguishers := ← texts fields "route_distinguishers"
    localPref := ← number fields "local_pref"
    networks := ← texts fields "networks"
    routers := ← texts fields "routers"
    ports := ← texts fields "ports"
    projectId := text fields "project_id"
    tenantId := text fields "tenant_id" }

def source : Source Database where
  router database id := do return (← fetch database "ROUTER" id).map (router id)
  subnet database id := do return (← fetch database "SUBNET" id).map (subnet id)
  bgpvpn database id := do
    match ← fetch database "BGPVPN" id with
    | none => return none
    | some fields => return some (← bgpvpn id fields)
  ports database filter := do
    let ports ← (← fetchAll database "PORT").mapM fun object => port object.1 object.2
    return ports.filter filter.admits
  bgpvpns database filter := do
    let bgpvpns ← (← fetchAll database "BGPVPN").mapM fun object => bgpvpn object.1 object.2
    return bgpvpns.filter filter.admits

end EvpnMetadata.KeyValue.TopologyTables
