import EvpnMetadata.KeyValue.Connection
import EvpnMetadata.Proofs.KeyValue.Mirroring
import EvpnMetadata.Proofs.Reconcile.Listings
import EvpnMetadata.Site

/-! # Topologies in a database and in memory

Where a database mirrors records, its tables answer as an inventory does in which the records were
stored.  Only the name of a router is not kept by an inventory, and nothing that the reconciler
resolves depends on it.
-/

namespace EvpnMetadata.KeyValue

open Vpn EvpnMetadata.Topology Reconcile Settings Switch

namespace TopologyTables

variable {database : Database}

theorem router_eq {records : List Router} (mirrors : routers.Mirrors database records)
    (id : String) :
    source.router database id = .ok (records.find? fun router => router.id = id) := by
  refine Eq.trans ?_ (mirrors.fetch_read id)
  exact bind_congr fun found => by cases found <;> rfl

theorem subnet_eq {records : List Subnet} (mirrors : subnets.Mirrors database records)
    (id : String) :
    source.subnet database id = .ok (records.find? fun subnet => subnet.id = id) := by
  refine Eq.trans ?_ (mirrors.fetch_read id)
  exact bind_congr fun found => by cases found <;> rfl

theorem bgpvpn_eq {records : List Bgpvpn} (mirrors : bgpvpns.Mirrors database records)
    (id : String) :
    source.bgpvpn database id = .ok (records.find? fun bgpvpn => bgpvpn.id = id) :=
  mirrors.fetch_read id

theorem ports_eq {records : List Port} (mirrors : ports.Mirrors database records)
    (ascending : (records.map Port.id).Pairwise (· < ·)) (filter : PortFilter) :
    source.ports database filter = .ok (records.filter filter.admits) :=
  mirrors.fetchAll_read ascending filter.admits

theorem bgpvpns_eq {records : List Bgpvpn} (mirrors : bgpvpns.Mirrors database records)
    (ascending : (records.map Bgpvpn.id).Pairwise (· < ·)) (filter : BgpvpnFilter) :
    source.bgpvpns database filter = .ok (records.filter filter.admits) :=
  mirrors.fetchAll_read ascending filter.admits

/-- A database mirrors records if each of its tables does, whatever other keys it holds. -/
structure Mirror (database : Database) (records : Records) : Prop where
  routers : routers.Mirrors database records.routers
  subnets : subnets.Mirrors database records.subnets
  ports : ports.Mirrors database records.ports
  bgpvpns : bgpvpns.Mirrors database records.bgpvpns

end TopologyTables

/-- On a server whose topology tables mirror records, every question is answered as in memory after
the records were stored there, except that memory leaves the names of routers empty. -/
theorem topology_tables_refine_memory (store : StoreSection) (topology : TopologySection)
    {server : Server} {records : Records}
    (mirror : TopologyTables.Mirror (server.get topology.databaseNumber.toNat) records)
    (switches : Memory) :
    let tables := deployment store topology
    let memory := Site.deployment
    let site : Site := { inventory := records.inventory, switches }
    (∀ id, memory.topology.router site id =
      (tables.topology.router server id).map (Option.map unnamed)) ∧
    (∀ id, tables.topology.router server id = memory.topology.router site id ↔
      ∀ router ∈ records.routers, router.id = id → router.name = "") ∧
    (∀ id, tables.topology.subnet server id = memory.topology.subnet site id) ∧
    (∀ id, tables.topology.bgpvpn server id = memory.topology.bgpvpn site id) ∧
    (∀ filter, tables.topology.ports server filter = memory.topology.ports site filter) ∧
    (∀ filter, tables.topology.bgpvpns server filter = memory.topology.bgpvpns site filter) ∧
    (∀ networkId departing,
      let resolved := (effective networkId departing).play tables server
      let expected := (effective networkId departing).play memory site
      resolved.result = expected.result ∧ resolved.marks = expected.marks) ∧
    ∀ routerId,
      let resolved := (connectedNetworks routerId).play tables server
      let expected := (connectedNetworks routerId).play memory site
      resolved.result = expected.result ∧ resolved.marks = expected.marks := by
  intro tables memory site
  have ports : (tables.topology.frozen server).ports = (memory.topology.frozen site).ports :=
    funext fun _ => funext fun filter =>
      (TopologyTables.ports_eq mirror.ports records.portsAscending filter).trans
        (records.source_ports filter).symm
  have bgpvpns : (tables.topology.frozen server).bgpvpns = (memory.topology.frozen site).bgpvpns :=
    funext fun _ => funext fun filter =>
      (TopologyTables.bgpvpns_eq mirror.bgpvpns records.bgpvpnsAscending filter).trans
        (records.source_bgpvpns filter).symm
  have router (id : String) : tables.topology.router server id =
      .ok (records.routers.find? fun router => router.id = id) :=
    TopologyTables.router_eq mirror.routers id
  refine ⟨fun id => ?_, fun id => ?_, fun id => ?_, fun id => ?_, fun filter => ?_,
    fun filter => ?_, fun networkId departing => ?_, fun routerId => ?_⟩
  · rw [router id]
    exact records.source_router id
  · rw [router id, show memory.topology.router site id = _ from records.source_router id,
      Except.ok.injEq]
    exact records.map_unnamed_eq_iff id
  · exact (TopologyTables.subnet_eq mirror.subnets id).trans (records.source_subnet id).symm
  · exact (TopologyTables.bgpvpn_eq mirror.bgpvpns id).trans (records.source_bgpvpn id).symm
  · exact congrFun (congrFun ports ()) filter
  · exact congrFun (congrFun bgpvpns ()) filter
  · exact (alike_effective ports bgpvpns networkId departing).play_eq
      (isInquiry_effective networkId departing)
  · exact (alike_connectedNetworks ports routerId).play_eq (isInquiry_connectedNetworks routerId)

def routedRecords : Records where
  routers := [{ id := "r1", name := "edge" }]
  subnets := [{ id := "s1", networkId := "n1" }]
  ports := [.routerInterface "p|1" "r1" "n1" "s1"]
  bgpvpns := [{ id := "v1", vpnType := "l3", vni := some 100, routers := ["r1"] }]

/-- The records, with an escape in a list, leading zeros in a number, and fields that are empty or
left out.  The list beside them is no part of the topology. -/
def routedDatabase : Database := .ofList [
  ("ROUTER|r1", .hash (.ofList [("name", "edge")])),
  ("SUBNET|s1", .hash (.ofList [("network_id", "n1")])),
  ("PORT|p|1", .hash (.ofList [("network_id", "n1"), ("device_id", "r1"),
    ("device_owner", "network:router_interface"), ("subnet_ids", "[\"s1\"]")])),
  ("BGPVPN|v1", .hash (.ofList [("name", ""), ("type", "l3"), ("vni", "00100"),
    ("route_targets", ""), ("local_pref", ""), ("networks", "[]"),
    ("routers", " [ \"r\\u0031\"]"), ("project_id", ""), ("tenant_id", "")])),
  ("evpn_events", .list ["PORT|p2"])]

def routedServer : Server := ⟨[(4, routedDatabase)]⟩

theorem isListText_escaped : Json.IsListText " [ \"r\\u0031\"]" ["r1"] := by
  have letters : "r1".toList = ['r', '1'] := by decide
  have spelled : List.Forall₂ Json.Spelling [['r'], ['\\', 'u', '0', '0', '3', '1']]
      "r1".toList := by
    rw [letters]
    exact .cons (.plain (by decide) (by decide) (by decide)) (.cons (.unit rfl rfl rfl) .nil)
  have blank : Json.IsBlanks [' '] := by decide
  exact .brackets blank (.filled (.one (.literal blank spelled Json.isBlanks_nil)))
    Json.isBlanks_nil (by decide)

theorem spells_padded : Text.Decimal.Spells "00100" 100 :=
  ⟨['0', '0', '1', '0', '0'], by decide, List.all_eq_true.mp (by decide), by decide,
    .inl (by decide)⟩

theorem mirror_routed : TopologyTables.Mirror routedDatabase routedRecords where
  routers := .of_keys (List.forall_mem_singleton.mpr ⟨_, rfl, ⟨rfl⟩⟩) (by decide)
  subnets := .of_keys (List.forall_mem_singleton.mpr ⟨_, rfl, ⟨rfl⟩⟩) (by decide)
  ports := by
    refine .of_keys (List.forall_mem_singleton.mpr ⟨_, rfl, rfl, rfl, rfl, ?_⟩) (by decide)
    exact .written rfl (Json.isListText_render ["s1"])
  bgpvpns := by
    refine .of_keys (List.forall_mem_singleton.mpr ⟨_, rfl, ?_⟩) (by decide)
    exact {
      name := rfl
      vpnType := rfl
      vni := .written rfl spells_padded
      routeTargets := .blank rfl
      importTargets := .absent rfl
      exportTargets := .absent rfl
      routeDistinguishers := .absent rfl
      localPref := .blank rfl
      networks := .written rfl (Json.isListText_render [])
      routers := .written rfl isListText_escaped
      ports := .absent rfl
      projectId := rfl
      tenantId := rfl }

/-- The network is resolved from the tables as it is from memory. -/
theorem topology_tables_refine_memory_routed :
    TopologyTables.Mirror (routedServer.get ({} : TopologySection).databaseNumber.toNat)
      routedRecords ∧
    ((effective "n1" .nothing).play (deployment {} {}) routedServer).result =
      .ok (some { id := "v1", vpnType := "l3", vni := some 100, routers := ["r1"] }) ∧
    ((connectedNetworks "r1").play (deployment {} {}) routedServer).result = .ok ["n1"] := by
  have mirror : TopologyTables.Mirror
      (routedServer.get ({} : TopologySection).databaseNumber.toNat) routedRecords := mirror_routed
  obtain ⟨-, -, -, -, -, -, resolved, connected⟩ :=
    topology_tables_refine_memory {} {} mirror {}
  exact ⟨mirror, (resolved "n1" .nothing).1.trans (by decide +kernel),
    (connected "r1").1.trans (by decide +kernel)⟩

/-- The name of a router is found in the tables, but not in memory. -/
theorem router_name_forgotten :
    TopologyTables.Mirror (routedServer.get ({} : TopologySection).databaseNumber.toNat)
      routedRecords ∧
    (deployment {} {}).topology.router routedServer "r1" =
      .ok (some { id := "r1", name := "edge" }) ∧
    Site.deployment.topology.router { inventory := routedRecords.inventory } "r1" =
      .ok (some { id := "r1", name := "" }) :=
  ⟨mirror_routed, by decide +kernel, by decide +kernel⟩

end EvpnMetadata.KeyValue
