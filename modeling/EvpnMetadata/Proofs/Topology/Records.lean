import EvpnMetadata.Proofs.Topology.Inventory
import Mathlib.Data.String.Basic

/-! # Inventories made of records

Records with distinct ids that are stored in an empty inventory, in the order of their ids, are what
the inventory holds then, in that order.  Only the names of routers are not kept.
-/

namespace EvpnMetadata.Topology

open Vpn

section Storing

variable {key : α → String}

theorem foldl_upsert_of_fresh {items : List α} (distinct : (items.map key).Nodup) {stored : List α}
    (fresh : ∀ item ∈ items, key item ∉ stored.map key) :
    items.foldl (fun stored item => upsert (fun other => key other = key item) item stored) stored =
      stored ++ items := by
  induction items generalizing stored with
  | nil => exact (List.append_nil stored).symm
  | cons item rest ih =>
    obtain ⟨other, others⟩ := List.nodup_cons.mp distinct
    obtain ⟨first, later⟩ := List.forall_mem_cons.mp fresh
    have still : ∀ next ∈ rest, key next ∉ (stored ++ [item]).map key := by
      intro next mem found
      rw [List.map_append, List.mem_append] at found
      rcases found with before | here
      · exact later next mem before
      · exact other (List.mem_singleton.mp here ▸ List.mem_map_of_mem mem)
    rw [List.foldl_cons, upsert_of_fresh first, ih others still, List.append_assoc]
    rfl

/-- Storing records with distinct ids, each as an item with the same id, where there are none. -/
theorem foldl_stored {id : β → String} {records : List β} (part : List α → Inventory)
    {store : Inventory → β → Inventory} (item : β → α)
    (keyed : ∀ record, key (item record) = id record)
    (stores : ∀ stored record, store (part stored) record =
      part (upsert (fun other => key other = key (item record)) (item record) stored))
    (ascending : (records.map id).Pairwise (· < ·)) :
    records.foldl store (part []) = part (records.map item) := by
  have same : (records.map item).map key = records.map id := by
    rw [List.map_map]
    exact List.map_congr_left fun record _ => keyed record
  have distinct : ((records.map item).map key).Nodup := same ▸ ascending.nodup
  have fresh : ∀ stored ∈ records.map item, key stored ∉ ([] : List α).map key :=
    fun _ _ => List.not_mem_nil
  have appended := foldl_upsert_of_fresh distinct fresh
  rw [List.foldl_map, List.nil_append] at appended
  rw [← appended]
  exact List.foldl_hom part stores

theorem foldl_kept {items : List α} (part : List α → Inventory) {store : Inventory → α → Inventory}
    (stores : ∀ stored item, store (part stored) item =
      part (upsert (fun other => key other = key item) item stored))
    (ascending : (items.map key).Pairwise (· < ·)) :
    items.foldl store (part []) = part items := by
  have stored := foldl_stored part (fun item => item) (fun _ => rfl) stores ascending
  rwa [List.map_id'] at stored

end Storing

/-- Finite sets of records with distinct ids, each listed in the ascending order of the ids. -/
structure Records where
  routers : List Router := []
  subnets : List Subnet := []
  ports : List Port := []
  bgpvpns : List Bgpvpn := []
  routersAscending : (routers.map Router.id).Pairwise (· < ·) := by decide
  subnetsAscending : (subnets.map Subnet.id).Pairwise (· < ·) := by decide
  portsAscending : (ports.map Port.id).Pairwise (· < ·) := by decide
  bgpvpnsAscending : (bgpvpns.map Bgpvpn.id).Pairwise (· < ·) := by decide

/-- A router as an inventory keeps it, which is told its id only. -/
def unnamed (router : Router) : Router := { router with name := "" }

namespace Records

variable (records : Records)

/-- An empty inventory in which the records are stored in turn. -/
def inventory : Inventory :=
  let withRouters :=
    records.routers.foldl (fun inventory router => inventory.addRouter router.id) {}
  let withSubnets := records.subnets.foldl
    (fun inventory subnet => inventory.addSubnet subnet.id subnet.networkId) withRouters
  let withPorts := records.ports.foldl Inventory.addPort withSubnets
  records.bgpvpns.foldl Inventory.putBgpvpn withPorts

/-- The inventory lists the records in the order of their ids. -/
theorem inventory_eq :
    records.inventory =
      { routers := records.routers.map unnamed
        subnets := records.subnets
        ports := records.ports
        bgpvpns := records.bgpvpns } := by
  let routers := records.routers.map unnamed
  have withRouters : records.routers.foldl
      (fun (inventory : Inventory) router => inventory.addRouter router.id) {} = { routers } :=
    foldl_stored (fun routers => { routers }) unnamed (fun _ => rfl) (fun _ _ => rfl)
      records.routersAscending
  have withSubnets : records.subnets.foldl
      (fun (inventory : Inventory) subnet => inventory.addSubnet subnet.id subnet.networkId)
      { routers } = { routers, subnets := records.subnets } :=
    foldl_kept (fun subnets => { routers, subnets }) (fun _ _ => rfl) records.subnetsAscending
  have withPorts : records.ports.foldl Inventory.addPort { routers, subnets := records.subnets } =
      { routers, subnets := records.subnets, ports := records.ports } :=
    foldl_kept (fun ports => { routers, subnets := records.subnets, ports }) (fun _ _ => rfl)
      records.portsAscending
  rw [inventory, withRouters, withSubnets, withPorts]
  exact foldl_kept
    (fun bgpvpns => { routers, subnets := records.subnets, ports := records.ports, bgpvpns })
    (fun _ _ => rfl) records.bgpvpnsAscending

theorem source_router (id : String) :
    Inventory.source.router records.inventory id =
      .ok ((records.routers.find? fun router => router.id = id).map unnamed) := by
  rw [inventory_eq]
  exact congrArg Except.ok (List.find?_map ..)

theorem source_subnet (id : String) :
    Inventory.source.subnet records.inventory id =
      .ok (records.subnets.find? fun subnet => subnet.id = id) := by
  rw [inventory_eq]
  rfl

theorem source_bgpvpn (id : String) :
    Inventory.source.bgpvpn records.inventory id =
      .ok (records.bgpvpns.find? fun bgpvpn => bgpvpn.id = id) := by
  rw [inventory_eq]
  rfl

theorem source_ports (filter : PortFilter) :
    Inventory.source.ports records.inventory filter =
      .ok (records.ports.filter filter.admits) := by
  rw [inventory_eq]
  rfl

theorem source_bgpvpns (filter : BgpvpnFilter) :
    Inventory.source.bgpvpns records.inventory filter =
      .ok (records.bgpvpns.filter filter.admits) := by
  rw [inventory_eq]
  rfl

/-- Nothing is lost of a router without a name, nor of one that is not there. -/
theorem map_unnamed_eq_iff (id : String) :
    (records.routers.find? fun router => router.id = id) =
        (records.routers.find? fun router => router.id = id).map unnamed ↔
      ∀ router ∈ records.routers, router.id = id → router.name = "" := by
  cases found : records.routers.find? fun router => router.id = id with
  | none =>
    refine ⟨fun _ router mem named => ?_, fun _ => rfl⟩
    exact absurd (decide_eq_true named) (List.find?_eq_none.mp found router mem)
  | some router =>
    have distinct := records.routersAscending.nodup
    obtain ⟨mem, named⟩ := (find?_eq_some_iff distinct).mp found
    constructor
    · intro kept other otherMem otherNamed
      obtain rfl := List.inj_on_of_nodup_map distinct otherMem mem (otherNamed.trans named.symm)
      exact congrArg Router.name (Option.some.inj kept)
    · intro nameless
      rw [Option.map_some, unnamed, ← nameless router mem named]

end Records

end EvpnMetadata.Topology
