import EvpnMetadata.Proofs.KeyValue.MirroredTopology
import EvpnMetadata.Proofs.Reconcile.Rearrangement

/-! # The order of listings

An inventory lists its objects in the order in which they came, and the tables of a database in the
order of their ids.  Where nobody disputes a network, this makes no difference to what is resolved
for it, nor to the metadata that it gets.
-/

namespace EvpnMetadata.KeyValue

open Vpn EvpnMetadata.Topology Switch Lifecycle Reconcile

/-- The records as an inventory that lists them in the order of their ids. -/
def listing (records : Records) : Inventory where
  routers := records.routers
  ports := records.ports
  subnets := records.subnets
  bgpvpns := records.bgpvpns

/-- Tables that mirror records answer as the inventory that lists them. -/
theorem frozen_tables {database : Database} {records : Records}
    (mirror : TopologyTables.Mirror database records) (switches : Memory) :
    TopologyTables.source.withSwitches.topology.frozen (database, switches) =
      (listing records).still := by
  rw [Source.frozen, Inventory.still, Source.frozen, Source.mk.injEq]
  refine ⟨?_, ?_, ?_, ?_, ?_⟩ <;> funext _ asked
  · exact TopologyTables.router_eq mirror.routers asked
  · exact TopologyTables.subnet_eq mirror.subnets asked
  · exact TopologyTables.bgpvpn_eq mirror.bgpvpns asked
  · exact TopologyTables.ports_eq mirror.ports records.portsAscending asked
  · exact TopologyTables.bgpvpns_eq mirror.bgpvpns records.bgpvpnsAscending asked

theorem keyed_of_rearranges {records : Records} {inventory : Inventory}
    (rearranges : (listing records).Rearranges inventory) : inventory.Keyed where
  routers := rearranges.routers.nodup_iff.mp records.routersAscending.nodup
  ports := (rearranges.ports.map _).nodup_iff.mp records.portsAscending.nodup
  subnets := (rearranges.subnets.map _).nodup_iff.mp records.subnetsAscending.nodup
  bgpvpns := (rearranges.bgpvpns.map _).nodup_iff.mp records.bgpvpnsAscending.nodup

/-- On a network that nobody disputes, the owner is found in whatever order ports and BGPVPNs are
listed, and nothing is logged.  The networks of a router are found in any case, each once.  So an
inventory and the tables that mirror its objects lead to the same metadata: when such a network is
converged, after a sweep, and after an event that reaches such networks only. -/
theorem resolution_ignores_order {inventory : Inventory}
    (distinct : (inventory.bgpvpns.map Bgpvpn.id).Nodup) :
    (∀ networkId, inventory.Undisputed networkId → ∀ (departing : Departing) {σ : Type}
      (deployment : Deployment σ) (state : σ), deployment.topology.Lists state inventory →
        (effective networkId departing).play deployment state =
          { result := .ok (inventory.owner networkId departing), state }) ∧
    (∀ (routerId : String) {σ : Type} (deployment : Deployment σ) (state : σ),
      deployment.topology.Lists state inventory → ∃ networks,
        (connectedNetworks routerId).play deployment state = { result := .ok networks, state } ∧
          networks.Nodup ∧
          ∀ networkId, networkId ∈ networks ↔ networkId ∈ inventory.connected routerId) ∧
    ∀ (naming : Naming) (switches : Memory) (database : Database) (records : Records),
      TopologyTables.Mirror database records → (listing records).Rearranges inventory →
      let tables := TopologyTables.source.withSwitches
      let memory := Site.deployment
      let site : Site := { inventory, switches }
      (∀ networkId, inventory.Undisputed networkId →
        (∀ departing,
          let converged := (converge naming networkId departing).play tables (database, switches)
          let expected := (converge naming networkId departing).play memory site
          converged.result = expected.result ∧
            converged.state.2.switches = expected.state.switches.switches) ∧
        ((sweep naming).play tables (database, switches)).state.2.switches.get?
            (naming.logicalName networkId) =
          ((sweep naming).play memory site).state.switches.switches.get?
            (naming.logicalName networkId)) ∧
      ∀ event : Event,
        (∀ networkId, inventory.ReachedBy networkId event → inventory.Undisputed networkId) →
        (∀ routerId port, event = .routerInterfaceCreated routerId port →
          port.networkId ∈ inventory.connected routerId) →
        let handled := (delivery naming event).play tables (database, switches)
        let expected := (delivery naming event).play memory site
        (handled.result = .ok () ↔ expected.result = .ok ()) ∧
          (expected.result = .ok () →
            handled.state.2.switches = expected.state.switches.switches) := by
  refine ⟨?_, ?_, ?_⟩
  · intro networkId undisputed departing σ deployment state lists
    exact finds_effective lists distinct departing undisputed
  · intro routerId σ deployment state lists
    exact finds_connectedNetworks lists routerId
  · intro naming switches database records mirror rearranges tables memory site
    have keyed := keyed_of_rearranges rearranges
    have still : Site.deployment.topology.frozen site = inventory.still := rfl
    have still' := frozen_tables mirror switches
    have reliable := Deployment.withSwitches_reliable TopologyTables.source
    refine ⟨fun networkId undisputed => ⟨fun departing => ?_, ?_⟩,
      fun event undisputed attached => ?_⟩
    · obtain ⟨result, after⟩ := converge_rearranged naming Deployment.site_reliable reliable still
        still' rearranges keyed rfl undisputed departing
      exact ⟨result.symm, after.symm⟩
    · exact (sweep_rearranged naming Deployment.site_reliable reliable still still' rearranges keyed
        rfl undisputed).symm
    · obtain ⟨together, after⟩ := delivery_rearranged naming Deployment.site_reliable reliable
        still still' rearranges keyed rfl undisputed attached
      exact ⟨together.symm, fun done => (after done).symm⟩

def sharedRecords : Records where
  routers := [{ id := "r1", name := "edge" }, { id := "r2" }]
  subnets := [{ id := "s2", networkId := "n1" }]
  ports := [.routerInterface "p1" "r2" "n1" "s2", .routerInterface "p2" "r1" "n1" "s2"]
  bgpvpns := [{ id := "v1", vpnType := "l3", vni := some 100, routers := ["r1", "r2"] },
    { id := "v2", vpnType := "l3", vni := some 200, networks := ["n2"] }]

def sharedInventory : Inventory where
  routers := [{ id := "r2" }, { id := "r1" }]
  subnets := [{ id := "s2", networkId := "n1" }]
  ports := [.routerInterface "p2" "r1" "n1" "s2", .routerInterface "p1" "r2" "n1" "s2"]
  bgpvpns := [{ id := "v2", vpnType := "l3", vni := some 200, networks := ["n2"] },
    { id := "v1", vpnType := "l3", vni := some 100, routers := ["r1", "r2"] }]

def sharedDatabase : Database := .ofList [
  ("ROUTER|r1", .hash (.ofList [("name", "edge")])),
  ("ROUTER|r2", .hash (.ofList [("name", "")])),
  ("SUBNET|s2", .hash (.ofList [("network_id", "n1")])),
  ("PORT|p1", .hash (.ofList [("network_id", "n1"), ("device_id", "r2"),
    ("device_owner", "network:router_interface"), ("subnet_ids", "[\"s2\"]")])),
  ("PORT|p2", .hash (.ofList [("network_id", "n1"), ("device_id", "r1"),
    ("device_owner", "network:router_interface"), ("subnet_ids", "[\"s2\"]")])),
  ("BGPVPN|v1", .hash (.ofList [("name", ""), ("type", "l3"), ("vni", "100"), ("networks", ""),
    ("routers", "[\"r1\",\"r2\"]"), ("project_id", ""), ("tenant_id", "")])),
  ("BGPVPN|v2", .hash (.ofList [("name", ""), ("type", "l3"), ("vni", "200"),
    ("networks", "[\"n2\"]"), ("project_id", ""), ("tenant_id", "")]))]

theorem mirror_shared : TopologyTables.Mirror sharedDatabase sharedRecords where
  routers := by
    refine .of_keys (List.forall_mem_cons.mpr ⟨⟨_, rfl, ⟨rfl⟩⟩,
      List.forall_mem_singleton.mpr ⟨_, rfl, ⟨rfl⟩⟩⟩) (by decide)
  subnets := .of_keys (List.forall_mem_singleton.mpr ⟨_, rfl, ⟨rfl⟩⟩) (by decide)
  ports := by
    have onSubnet := Json.isListText_render ["s2"]
    refine .of_keys (List.forall_mem_cons.mpr ⟨⟨_, rfl, rfl, rfl, rfl, .written rfl onSubnet⟩,
      List.forall_mem_singleton.mpr ⟨_, rfl, rfl, rfl, rfl, .written rfl onSubnet⟩⟩) (by decide)
  bgpvpns := by
    refine .of_keys (List.forall_mem_cons.mpr ⟨⟨_, rfl, ?_⟩,
      List.forall_mem_singleton.mpr ⟨_, rfl, ?_⟩⟩) (by decide)
    · exact {
        name := rfl
        vpnType := rfl
        vni := .written rfl (Text.Decimal.spells_write 100)
        routeTargets := .absent rfl
        importTargets := .absent rfl
        exportTargets := .absent rfl
        routeDistinguishers := .absent rfl
        localPref := .absent rfl
        networks := .blank rfl
        routers := .written rfl (Json.isListText_render ["r1", "r2"])
        ports := .absent rfl
        projectId := rfl
        tenantId := rfl }
    · exact {
        name := rfl
        vpnType := rfl
        vni := .written rfl (Text.Decimal.spells_write 200)
        routeTargets := .absent rfl
        importTargets := .absent rfl
        exportTargets := .absent rfl
        routeDistinguishers := .absent rfl
        localPref := .absent rfl
        networks := .written rfl (Json.isListText_render ["n2"])
        routers := .absent rfl
        ports := .absent rfl
        projectId := rfl
        tenantId := rfl }

theorem rearranges_shared : (listing sharedRecords).Rearranges sharedInventory where
  routers := by decide
  ports := by decide
  subnets := by decide
  bgpvpns := by decide

theorem undisputed_shared : sharedInventory.Undisputed "n1" where
  direct := by
    rintro first second ⟨record, own⟩ _
    simp only [sharedInventory, List.mem_cons, List.not_mem_nil, or_false] at record
    rcases record with rfl | rfl <;> simp at own
  routed := by
    have unique {bgpvpn : Bgpvpn} (routed : sharedInventory.Routed "n1" bgpvpn) :
        bgpvpn = { id := "v1", vpnType := "l3", vni := some 100, routers := ["r1", "r2"] } := by
      obtain ⟨record, routerId, own, -⟩ := routed
      simp only [sharedInventory, List.mem_cons, List.not_mem_nil, or_false] at record
      rcases record with rfl | rfl
      · simp at own
      · rfl
    intro first second routed routed'
    rw [unique routed, unique routed']

/-- The tables list the ports and the BGPVPNs in the opposite order, but the shared BGPVPN is found
from them, and its association with a router leaves the switch as it does in memory. -/
theorem resolution_ignores_order_shared :
    let tables := TopologyTables.source.withSwitches
    let switches := Memory.add {} "neutron-n1" "uuid-1"
    let shared : Bgpvpn := { id := "v1", vpnType := "l3", vni := some 100, routers := ["r1", "r2"] }
    let event : Event := .routerAssociationCreate .postcommit { bgpvpnId := "v1", routerId := "r1" }
    let handled := (delivery {} event).play tables (sharedDatabase, switches)
    let expected := (delivery {} event).play Site.deployment ⟨sharedInventory, switches⟩
    (listing sharedRecords).ports ≠ sharedInventory.ports ∧
    (listing sharedRecords).bgpvpns ≠ sharedInventory.bgpvpns ∧
    (effective "n1" .nothing).play tables (sharedDatabase, switches) =
      { result := .ok (some shared), state := (sharedDatabase, switches) } ∧
    handled.result = .ok () ∧
    handled.state.2.switches = expected.state.switches.switches ∧
    Assignment.IsSettled {} ⟨"n1", some shared⟩ expected.state.switches.switches := by
  intro tables switches shared event handled expected
  have distinct : (sharedInventory.bgpvpns.map Bgpvpn.id).Nodup := by decide
  have lists := rearranges_shared.lists (frozen_tables mirror_shared switches)
  have owner : sharedInventory.owner "n1" .nothing = some shared := by decide
  have done : expected.result = .ok () := by decide +kernel
  have undisputed : ∀ networkId, sharedInventory.ReachedBy networkId event →
      sharedInventory.Undisputed networkId := by
    intro networkId reached
    have connected : sharedInventory.connected "r1" = ["n1"] := by decide
    change networkId ∈ sharedInventory.connected "r1" at reached
    rw [connected, List.mem_singleton] at reached
    exact reached ▸ undisputed_shared
  obtain ⟨found, -, same⟩ := resolution_ignores_order distinct
  obtain ⟨-, events⟩ := same {} switches sharedDatabase sharedRecords mirror_shared
    rearranges_shared
  obtain ⟨together, after⟩ := events event undisputed nofun
  subst tables handled expected
  refine ⟨by decide, by decide, ?_, together.mpr done, after done, by decide +kernel⟩
  rw [found "n1" undisputed_shared .nothing _ _ lists, owner]

end EvpnMetadata.KeyValue
