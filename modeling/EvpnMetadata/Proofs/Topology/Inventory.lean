import EvpnMetadata.Topology.Inventory
import Mathlib.Data.List.Nodup

/-! # Laws of inventories

However an inventory came about, its objects of each kind have distinct ids.  So storing an object
again replaces one record, and a change of a record is a change of the one record with its id.
-/

namespace EvpnMetadata.Topology

open Vpn

section Records

variable {key : α → String} {items : List α} {item : α}

theorem mem_map_upsert {id : String} :
    id ∈ (upsert (fun other => key other = key item) item items).map key ↔
      id = key item ∨ id ∈ items.map key := by
  induction items with
  | nil => simp [upsert]
  | cons head rest ih =>
    rw [upsert]
    split
    · next same =>
      rw [List.map_cons, List.map_cons, List.mem_cons, List.mem_cons, of_decide_eq_true same]
      simp
    · rw [List.map_cons, List.mem_cons, ih, List.map_cons, List.mem_cons, or_left_comm]

theorem nodup_upsert (item : α) (distinct : (items.map key).Nodup) :
    ((upsert (fun other => key other = key item) item items).map key).Nodup := by
  induction items with
  | nil => simp [upsert]
  | cons head rest ih =>
    obtain ⟨fresh, others⟩ := List.nodup_cons.mp distinct
    rw [upsert]
    split
    · next same =>
      rw [List.map_cons, ← of_decide_eq_true same]
      exact distinct
    · next other =>
      rw [List.map_cons, List.nodup_cons, mem_map_upsert]
      refine ⟨fun found => ?_, ih others⟩
      rcases found with same | later
      · exact other (decide_eq_true same)
      · exact fresh later

theorem mem_of_mem_upsert {same : α → Bool} {other : α} (mem : other ∈ upsert same item items) :
    other = item ∨ other ∈ items := by
  induction items with
  | nil => exact .inl (List.mem_singleton.mp mem)
  | cons head rest ih =>
    rw [upsert] at mem
    split at mem <;> rcases List.mem_cons.mp mem with rfl | later
    · exact .inl rfl
    · exact .inr (.tail _ later)
    · exact .inr List.mem_cons_self
    · exact (ih later).imp id (.tail _)

/-- An item is only ever replaced by itself, so it stays. -/
theorem mem_upsert_of_mem {same : α → Bool} {other : α} (mem : other ∈ items)
    (kept : same other = true → other = item) : other ∈ upsert same item items := by
  induction items with
  | nil => cases mem
  | cons head rest ih =>
    rw [upsert]
    split
    · next here =>
      rcases List.mem_cons.mp mem with rfl | later
      · exact kept here ▸ List.mem_cons_self
      · exact .tail _ later
    · rcases List.mem_cons.mp mem with rfl | later
      · exact List.mem_cons_self
      · exact .tail _ (ih later)

theorem mem_upsert_self {same : α → Bool} : item ∈ upsert same item items := by
  induction items with
  | nil => exact List.mem_cons_self
  | cons head rest ih =>
    rw [upsert]
    split
    · exact List.mem_cons_self
    · exact .tail _ ih

theorem upsert_of_fresh (fresh : key item ∉ items.map key) :
    upsert (fun other => key other = key item) item items = items ++ [item] := by
  induction items with
  | nil => rfl
  | cons head rest ih =>
    rw [List.map_cons, List.mem_cons, not_or] at fresh
    have other : ¬decide (key head = key item) = true := fun same =>
      fresh.1 (of_decide_eq_true same).symm
    rw [upsert, if_neg other, ih fresh.2, List.cons_append]

/-- With distinct ids, the first item with an id is the only one. -/
theorem modifyFirst_eq_map (distinct : (items.map key).Nodup) (id : String) (change : α → α) :
    modifyFirst (fun other => key other = id) change items =
      items.map fun other => if key other = id then change other else other := by
  induction items with
  | nil => rfl
  | cons head rest ih =>
    obtain ⟨fresh, others⟩ := List.nodup_cons.mp distinct
    rw [modifyFirst, List.map_cons]
    by_cases same : key head = id
    · have apart : rest.map (fun other => if key other = id then change other else other) =
          rest := by
        refine (List.map_congr_left fun other mem => if_neg ?_).trans (List.map_id' rest)
        intro same'
        exact fresh (List.mem_map.mpr ⟨other, mem, same'.trans same.symm⟩)
      rw [if_pos (decide_eq_true same), if_pos same, apart]
    · have other : ¬decide (key head = id) = true := fun same' => same (of_decide_eq_true same')
      rw [if_neg other, if_neg same, ih others]

theorem upsert_eq_modifyFirst (found : key item ∈ items.map key) :
    upsert (fun other => key other = key item) item items =
      modifyFirst (fun other => key other = key item) (fun _ => item) items := by
  induction items with
  | nil => cases found
  | cons head rest ih =>
    rw [upsert, modifyFirst]
    split
    · rfl
    · next other =>
      rw [List.map_cons, List.mem_cons] at found
      have later := found.resolve_left fun same => other (decide_eq_true same.symm)
      rw [ih later]

theorem find?_modifyFirst {same : α → Bool} {change : α → α}
    (kept : ∀ item, same (change item) = same item) :
    (modifyFirst same change items).find? same = (items.find? same).map change := by
  induction items with
  | nil => rfl
  | cons head rest ih =>
    rw [modifyFirst]
    cases here : same head with
    | true =>
      rw [if_pos rfl, List.find?_cons_of_pos ((kept head).trans here),
        List.find?_cons_of_pos here, Option.map_some]
    | false =>
      rw [if_neg Bool.false_ne_true, List.find?_cons_of_neg (Bool.eq_false_iff.mp here),
        List.find?_cons_of_neg (Bool.eq_false_iff.mp here), ih]

theorem find?_eq_some_iff (distinct : (items.map key).Nodup) {id : String} :
    (items.find? fun other => key other = id) = some item ↔ item ∈ items ∧ key item = id := by
  have named {first : α} (found : (items.find? fun other => key other = id) = some first) :
      key first = id := by simpa using List.find?_some found
  constructor
  · intro found
    exact ⟨List.mem_of_find?_eq_some found, named found⟩
  · rintro ⟨mem, here⟩
    cases found : items.find? fun other => key other = id with
    | none => exact absurd (decide_eq_true here) (List.find?_eq_none.mp found item mem)
    | some first =>
      have same := (named found).trans here.symm
      rw [List.inj_on_of_nodup_map distinct (List.mem_of_find?_eq_some found) mem same]

theorem map_modifyFirst (same : α → Bool) {change : α → α}
    (kept : ∀ item, key (change item) = key item) :
    (modifyFirst same change items).map key = items.map key := by
  induction items with
  | nil => rfl
  | cons head rest ih =>
    rw [modifyFirst]
    split
    · rw [List.map_cons, List.map_cons, kept]
    · rw [List.map_cons, List.map_cons, ih]

theorem nodup_filter (distinct : (items.map key).Nodup) (keep : α → Bool) :
    ((items.filter keep).map key).Nodup :=
  distinct.sublist (List.filter_sublist.map key)

end Records

namespace Inventory

structure Keyed (inventory : Inventory) : Prop where
  routers : (inventory.routers.map Router.id).Nodup
  ports : (inventory.ports.map Port.id).Nodup
  subnets : (inventory.subnets.map Subnet.id).Nodup
  bgpvpns : (inventory.bgpvpns.map Bgpvpn.id).Nodup

/-- The inventories that come about by changes of an empty one. -/
inductive Built : Inventory → Prop where
  | empty : Built {}
  | addRouter {inventory} (routerId : String) (built : Built inventory) :
    Built (inventory.addRouter routerId)
  | removeRouter {inventory} (routerId : String) (built : Built inventory) :
    Built (inventory.removeRouter routerId)
  | addSubnet {inventory} (subnetId networkId : String) (built : Built inventory) :
    Built (inventory.addSubnet subnetId networkId)
  | addPort {inventory} (port : Port) (built : Built inventory) : Built (inventory.addPort port)
  | removePort {inventory} (portId : String) (built : Built inventory) :
    Built (inventory.removePort portId)
  | putBgpvpn {inventory} (bgpvpn : Bgpvpn) (built : Built inventory) :
    Built (inventory.putBgpvpn bgpvpn)
  | removeBgpvpn {inventory} (bgpvpnId : String) (built : Built inventory) :
    Built (inventory.removeBgpvpn bgpvpnId)
  | associateNetwork {inventory} (bgpvpnId networkId : String) (built : Built inventory) :
    Built (inventory.associateNetwork bgpvpnId networkId)
  | dissociateNetwork {inventory} (bgpvpnId networkId : String) (built : Built inventory) :
    Built (inventory.dissociateNetwork bgpvpnId networkId)
  | associateRouter {inventory} (bgpvpnId routerId : String) (built : Built inventory) :
    Built (inventory.associateRouter bgpvpnId routerId)
  | dissociateRouter {inventory} (bgpvpnId routerId : String) (built : Built inventory) :
    Built (inventory.dissociateRouter bgpvpnId routerId)

theorem Keyed.modifyBgpvpn {inventory : Inventory} (keyed : inventory.Keyed) (bgpvpnId : String)
    {change : Bgpvpn → Bgpvpn} (kept : ∀ bgpvpn, (change bgpvpn).id = bgpvpn.id) :
    (inventory.modifyBgpvpn bgpvpnId change).Keyed :=
  { keyed with bgpvpns := (map_modifyFirst _ kept).symm ▸ keyed.bgpvpns }

theorem Built.keyed {inventory : Inventory} (built : inventory.Built) : inventory.Keyed := by
  induction built with
  | empty => exact ⟨.nil, .nil, .nil, .nil⟩
  | addRouter routerId _ ih =>
    exact { ih with routers := nodup_upsert (Router.mk routerId "") ih.routers }
  | removeRouter routerId _ ih => exact { ih with routers := nodup_filter ih.routers _ }
  | addSubnet subnetId networkId _ ih =>
    exact { ih with subnets := nodup_upsert (Subnet.mk subnetId networkId) ih.subnets }
  | addPort port _ ih => exact { ih with ports := nodup_upsert port ih.ports }
  | removePort portId _ ih => exact { ih with ports := nodup_filter ih.ports _ }
  | putBgpvpn bgpvpn _ ih => exact { ih with bgpvpns := nodup_upsert bgpvpn ih.bgpvpns }
  | removeBgpvpn bgpvpnId _ ih => exact { ih with bgpvpns := nodup_filter ih.bgpvpns _ }
  | associateNetwork bgpvpnId networkId _ ih =>
    apply ih.modifyBgpvpn
    intro bgpvpn
    split <;> rfl
  | dissociateNetwork bgpvpnId networkId _ ih => exact ih.modifyBgpvpn _ fun _ => rfl
  | associateRouter bgpvpnId routerId _ ih =>
    apply ih.modifyBgpvpn
    intro bgpvpn
    split <;> rfl
  | dissociateRouter bgpvpnId routerId _ ih => exact ih.modifyBgpvpn _ fun _ => rfl

end Inventory

end EvpnMetadata.Topology
