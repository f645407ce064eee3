import EvpnMetadata.Proofs.Reconcile.Candidates
import EvpnMetadata.Proofs.Reconcile.Interruption

/-! # Resolution without disputes

Resolution goes by the first match at every level.  On a network with at most one candidate of each
kind there is at most one match at every level, so the order in which the topology lists its objects
makes no difference, and nothing is said about it.
-/

namespace EvpnMetadata

open Vpn EvpnMetadata.Topology

namespace Attempt

/-- An attempt finds something out: it says nothing on the way and leaves the state alone. -/
def Finds (deployment : Deployment σ) (state : σ) (x : Attempt α) (a : α) : Prop :=
  x.play deployment state = { result := .ok a, state }

variable {deployment : Deployment σ} {state : σ}

theorem finds_pure (a : α) : Finds deployment state (pure a : Attempt α) a := rfl

theorem Finds.bind {x : Attempt α} {f : α → Attempt β} {a : α} {b : β}
    (hx : x.Finds deployment state a) (hf : (f a).Finds deployment state b) :
    (x >>= f).Finds deployment state b := by
  rw [Finds, play_bind, show x.play deployment state = _ from hx]
  exact hf

theorem Finds.mapM {f : α → Attempt β} {g : α → β} {items : List α}
    (hf : ∀ a ∈ items, (f a).Finds deployment state (g a)) :
    (items.mapM f).Finds deployment state (items.map g) := by
  induction items with
  | nil => exact finds_pure []
  | cons item rest ih =>
    obtain ⟨first, others⟩ := List.forall_mem_cons.mp hf
    rw [List.mapM_cons]
    exact first.bind ((ih others).bind (finds_pure _))

theorem Finds.eq_of_answer {x : Attempt α} {topology : Source Unit} {a b : α}
    (found : x.Finds topology.alone () a) (answered : x.answer topology = .ok b) : b = a := by
  have answer : x.answer topology = .ok a := congrArg Outcome.result found
  exact Except.ok.inj (answered.symm.trans answer)

end Attempt

namespace Reconcile

theorem eq_toList_head? {items : List α} (distinct : items.Nodup)
    (alike : ∀ a ∈ items, ∀ b ∈ items, a = b) : items = items.head?.toList := by
  match items with
  | [] => rfl
  | [_] => rfl
  | first :: second :: rest =>
    obtain rfl := alike first (by simp) second (by simp)
    simp at distinct

theorem eq_of_perm_toList {listed : List α} {item : Option α} (perm : listed.Perm item.toList) :
    listed = item.toList := by
  cases item with
  | none => exact List.perm_nil.mp perm
  | some item => exact List.perm_singleton.mp perm

theorem mem_of_mem_firsts [DecidableEq β] {key : α → β} {item : α} {items : List α}
    (mem : item ∈ firsts key items) : item ∈ items := by
  induction items with
  | nil => cases mem
  | cons head rest ih =>
    rcases List.mem_cons.mp mem with rfl | later
    · exact List.mem_cons_self
    · exact .tail _ (ih (List.mem_of_mem_filter later))

/-- Equal items have one head, however often and in what order they are listed. -/
theorem head?_eq_of_mem_iff {items others : List α} (alike : ∀ a ∈ items, ∀ b ∈ items, a = b)
    (same : ∀ a, a ∈ items ↔ a ∈ others) : items.head? = others.head? := by
  cases items with
  | nil =>
    have none : others = [] := List.eq_nil_iff_forall_not_mem.mpr fun a mem =>
      List.not_mem_nil ((same a).mpr mem)
    rw [none]
  | cons first rest =>
    cases others with
    | nil => simpa using (same first).mp List.mem_cons_self
    | cons other others =>
      rw [alike first List.mem_cons_self other ((same other).mpr List.mem_cons_self)]
      rfl

theorem firsts_eq_toList_head? [DecidableEq β] (key : α → β) {items : List α}
    (alike : ∀ a ∈ items, ∀ b ∈ items, a = b) : firsts key items = items.head?.toList := by
  cases items with
  | nil => rfl
  | cons head rest =>
    have none : (firsts key rest).filter (fun other => key other ≠ key head) = [] := by
      rw [List.filter_eq_nil_iff]
      intro other mem
      obtain rfl := alike other (.tail _ (mem_of_mem_firsts mem)) head List.mem_cons_self
      simp
    rw [firsts, none]
    rfl

end Reconcile

/-- The ports and BGPVPNs are listed from an inventory, every time in an order of its own. -/
structure Topology.Source.Lists (source : Source σ) (state : σ) (inventory : Inventory) : Prop where
  ports (filter : PortFilter) : ∃ listed, source.ports state filter = .ok listed ∧
    listed.Perm (inventory.ports.filter filter.admits)
  bgpvpns (filter : BgpvpnFilter) : ∃ listed, source.bgpvpns state filter = .ok listed ∧
    listed.Perm (inventory.bgpvpns.filter filter.admits)

namespace Topology.Inventory

open Reconcile

variable {inventory : Inventory} {networkId : String}

/-- At most one BGPVPN is associated with a network directly, and at most one with the routers that
have an interface on it.  So each of these routers has at most one, and it is the same for all. -/
structure Undisputed (inventory : Inventory) (networkId : String) : Prop where
  direct {first second : Bgpvpn} (h : inventory.Direct networkId first)
    (h' : inventory.Direct networkId second) : first = second
  routed {first second : Bgpvpn} (h : inventory.Routed networkId first)
    (h' : inventory.Routed networkId second) : first = second

section Matches

variable (distinct : (inventory.bgpvpns.map Bgpvpn.id).Nodup) (departing : Departing)

include distinct

theorem Undisputed.direct_eq (undisputed : inventory.Undisputed networkId) :
    inventory.direct networkId departing =
      (inventory.direct networkId departing).head?.toList := by
  apply eq_toList_head? (distinct.of_map.filter _)
  intro first mem second mem'
  obtain ⟨record, own, _⟩ := mem_direct.mp mem
  obtain ⟨record', own', _⟩ := mem_direct.mp mem'
  exact undisputed.direct ⟨record, own⟩ ⟨record', own'⟩

theorem Undisputed.associates_eq (undisputed : inventory.Undisputed networkId) {routerId : String}
    (reached : networkId ∈ inventory.connected routerId) :
    associates inventory.bgpvpns routerId departing =
      (inventory.ofRouter routerId departing).toList := by
  have routed {bgpvpn : Bgpvpn} (mem : bgpvpn ∈ associates inventory.bgpvpns routerId departing) :
      inventory.Routed networkId bgpvpn := by
    obtain ⟨record, kept⟩ := List.mem_filter.mp mem
    refine ⟨record, routerId, ?_, reached⟩
    simpa [Bgpvpn.hasRouter] using (Bool.and_eq_true_iff.mp kept).1
  have first : (associates inventory.bgpvpns routerId departing).head? =
      inventory.ofRouter routerId departing := head?_associates ..
  rw [← first]
  apply eq_toList_head? (distinct.of_map.filter _)
  exact fun first mem second mem' => undisputed.routed (routed mem) (routed mem')

omit distinct

/-- All routers on an undisputed network lead to one BGPVPN. -/
theorem Undisputed.alike (undisputed : inventory.Undisputed networkId) {routers : List String}
    (reached : ∀ routerId ∈ routers, networkId ∈ inventory.connected routerId) :
    ∀ first ∈ routers.filterMap fun routerId => inventory.ofRouter routerId departing,
      ∀ second ∈ routers.filterMap fun routerId => inventory.ofRouter routerId departing,
        first = second := by
  have routed {bgpvpn : Bgpvpn}
      (mem : bgpvpn ∈ routers.filterMap fun routerId => inventory.ofRouter routerId departing) :
      inventory.Routed networkId bgpvpn := by
    obtain ⟨routerId, there, first⟩ := List.mem_filterMap.mp mem
    obtain ⟨record, own, _⟩ := ofRouter_eq_some first
    exact ⟨record, routerId, own, reached routerId there⟩
  exact fun first mem second mem' => undisputed.routed (routed mem) (routed mem')

theorem derived_eq_head?_routers (inventory : Inventory) (networkId : String)
    (departing : Departing) :
    inventory.derived networkId departing =
      (((inventory.interfacesOn networkId departing).map Port.deviceId).filterMap
        fun routerId => inventory.ofRouter routerId departing).head? := by
  rw [List.head?_filterMap, List.findSome?_map]
  rfl

theorem connected_of_mem_interfacesOn {port : Port}
    (mem : port ∈ inventory.interfacesOn networkId departing) :
    networkId ∈ inventory.connected port.deviceId := by
  obtain ⟨listed, isInterface, on, _⟩ := mem_interfacesOn.mp mem
  exact mem_connected.mpr ⟨port, listed, isInterface, rfl, on⟩

end Matches

end Topology.Inventory

namespace Reconcile

open Inventory

variable {deployment : Deployment σ} {state : σ} {inventory : Inventory} {networkId : String}
  (lists : deployment.topology.Lists state inventory)

include lists

theorem finds_ports (filter : PortFilter) :
    ∃ listed, (Attempt.ports filter).Finds deployment state listed ∧
      listed.Perm (inventory.ports.filter filter.admits) := by
  obtain ⟨listed, answer, perm⟩ := lists.ports filter
  exact ⟨listed, congrArg (Outcome.mk · state []) answer, perm⟩

theorem finds_bgpvpns (filter : BgpvpnFilter) :
    ∃ listed, (Attempt.bgpvpns filter).Finds deployment state listed ∧
      listed.Perm (inventory.bgpvpns.filter filter.admits) := by
  obtain ⟨listed, answer, perm⟩ := lists.bgpvpns filter
  exact ⟨listed, congrArg (Outcome.mk · state []) answer, perm⟩

theorem finds_connectedNetworks (routerId : String) :
    ∃ networks, (connectedNetworks routerId).Finds deployment state networks ∧ networks.Nodup ∧
      ∀ networkId, networkId ∈ networks ↔ networkId ∈ inventory.connected routerId := by
  obtain ⟨listed, found, perm⟩ := finds_ports lists (.routerInterfacesOf routerId)
  refine ⟨_, found.bind (Attempt.finds_pure _), nodup_firsts _, fun networkId => ?_⟩
  rw [connected, mem_firsts, mem_firsts, (perm.map _).mem_iff, filter_interfacesOf]

theorem finds_routersOfNetwork (networkId : String) (departing : Departing) :
    ∃ routers, (routersOfNetwork networkId departing).Finds deployment state routers ∧
      ∀ routerId, routerId ∈ routers ↔
        routerId ∈ (inventory.interfacesOn networkId departing).map Port.deviceId := by
  obtain ⟨listed, found, perm⟩ := finds_ports lists (.routerInterfacesOn networkId)
  refine ⟨_, found.bind (Attempt.finds_pure _), fun routerId => ?_⟩
  rw [mem_firsts, ((perm.filter _).map _).mem_iff, filter_interfaces]

variable (distinct : (inventory.bgpvpns.map Bgpvpn.id).Nodup) (departing : Departing)
  (undisputed : inventory.Undisputed networkId)

include distinct undisputed

theorem finds_directBgpvpns :
    (directBgpvpns networkId departing).Finds deployment state
      (inventory.direct networkId departing) := by
  obtain ⟨listed, found, perm⟩ := finds_bgpvpns lists (.network networkId)
  have kept := perm.filter fun bgpvpn => !departing.dropsDirect bgpvpn.id networkId
  rw [filter_network] at kept
  have one := undisputed.direct_eq distinct departing
  rw [show directly _ _ _ = _ from one] at kept
  rw [one, ← eq_of_perm_toList kept]
  exact found.bind (Attempt.finds_pure _)

theorem finds_routerBgpvpn {routerId : String}
    (reached : networkId ∈ inventory.connected routerId) :
    (routerBgpvpn routerId departing).Finds deployment state
      (inventory.ofRouter routerId departing) := by
  obtain ⟨listed, found, perm⟩ := finds_bgpvpns lists (.router routerId)
  have kept := perm.filter fun bgpvpn => !departing.dropsThroughRouter bgpvpn.id routerId
  rw [filter_router, undisputed.associates_eq distinct departing reached] at kept
  apply found.bind
  rw [eq_of_perm_toList kept]
  cases inventory.ofRouter routerId departing <;> exact Attempt.finds_pure _

theorem finds_routerDerived :
    (routerDerived networkId departing).Finds deployment state
      (inventory.derived networkId departing) := by
  obtain ⟨routers, found, same⟩ := finds_routersOfNetwork lists networkId departing
  have reached : ∀ routerId ∈ routers, networkId ∈ inventory.connected routerId := by
    intro routerId mem
    obtain ⟨port, there, rfl⟩ := List.mem_map.mp ((same routerId).mp mem)
    exact connected_of_mem_interfacesOn departing there
  have each := Attempt.Finds.mapM fun routerId mem =>
    finds_routerBgpvpn lists distinct departing undisputed (reached routerId mem)
  refine found.bind (each.bind ?_)
  -- The routers come in any order, but whoever is behind one of them is the only one.
  have first : firsts Bgpvpn.id ((routers.map fun routerId =>
      inventory.ofRouter routerId departing).filterMap id) =
        (inventory.derived networkId departing).toList := by
    rw [List.filterMap_map, derived_eq_head?_routers]
    have alike := undisputed.alike departing reached
    refine (firsts_eq_toList_head? Bgpvpn.id alike).trans (congrArg Option.toList ?_)
    apply head?_eq_of_mem_iff alike
    intro bgpvpn
    simp only [List.mem_filterMap, same]
  rw [first]
  cases inventory.derived networkId departing <;> exact Attempt.finds_pure _

theorem finds_effective :
    (effective networkId departing).Finds deployment state
      (inventory.owner networkId departing) := by
  apply (finds_directBgpvpns lists distinct departing undisputed).bind
  rw [owner, undisputed.direct_eq distinct]
  cases (inventory.direct networkId departing).head? with
  | none => exact finds_routerDerived lists distinct departing undisputed
  | some bgpvpn => exact Attempt.finds_pure _

end Reconcile

end EvpnMetadata
