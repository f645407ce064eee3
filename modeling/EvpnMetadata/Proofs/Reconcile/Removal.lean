import EvpnMetadata.Proofs.Reconcile.Plans

/-! # Removals

Before an object is removed, its networks are settled on the owners that they will have without it.
The look-ahead skips the object in three places; what it sees is what the inventory shows once the
object is gone.
-/

namespace EvpnMetadata.Reconcile

open Vpn EvpnMetadata.Topology Switch Lifecycle

/-- What may be removed after it was announced. -/
inductive Removal where
  | bgpvpn (record : Bgpvpn)
  | networkAssociation (association : NetworkAssociation)
  | routerAssociation (association : RouterAssociation)
  deriving DecidableEq, Repr

namespace Removal

def event : Removal → Event
  | bgpvpn record => .bgpvpnDelete .precommit record
  | networkAssociation association => .networkAssociationDelete .precommit association
  | routerAssociation association => .routerAssociationDelete .precommit association

def notice : Removal → Event
  | bgpvpn record => .bgpvpnDelete .postcommit record
  | networkAssociation association => .networkAssociationDelete .postcommit association
  | routerAssociation association => .routerAssociationDelete .postcommit association

def departing : Removal → Departing
  | bgpvpn record => .bgpvpn record.id
  | networkAssociation association =>
    .networkAssociation association.bgpvpnId association.networkId
  | routerAssociation association => .routerAssociation association.bgpvpnId association.routerId

def apply (inventory : Inventory) : Removal → Inventory
  | bgpvpn record => inventory.removeBgpvpn record.id
  | networkAssociation association =>
    inventory.dissociateNetwork association.bgpvpnId association.networkId
  | routerAssociation association =>
    inventory.dissociateRouter association.bgpvpnId association.routerId

/-- What the removal does to the record of a BGPVPN that stays. -/
def strip (removal : Removal) (record : Bgpvpn) : Bgpvpn :=
  match removal with
  | bgpvpn _ => record
  | networkAssociation association =>
    if record.id = association.bgpvpnId then
      { record with networks := record.networks.filter (· ≠ association.networkId) }
    else record
  | routerAssociation association =>
    if record.id = association.bgpvpnId then
      { record with routers := record.routers.filter (· ≠ association.routerId) }
    else record

/-- The networks whose owner may change.  Behind a router these are the networks without a direct
association. -/
def reaches (removal : Removal) (inventory : Inventory) : List String :=
  match removal with
  | bgpvpn record => inventory.reached record
  | networkAssociation association => [association.networkId]
  | routerAssociation association =>
    (inventory.connected association.routerId).filter fun networkId =>
      (inventory.direct networkId .nothing).isEmpty

theorem strip_id (removal : Removal) (record : Bgpvpn) :
    (removal.strip record).id = record.id := by
  cases removal with
  | bgpvpn _ => rfl
  | networkAssociation association | routerAssociation association =>
    rw [strip]
    split <;> rfl

theorem strip_bgpvpn (record : Bgpvpn) : (bgpvpn record).strip = id := rfl

/-- Only association lists are shortened, so the same attributes are published. -/
theorem ofBgpvpn_strip (removal : Removal) (record : Bgpvpn) :
    Bag.ofBgpvpn (removal.strip record) = Bag.ofBgpvpn record := by
  cases removal with
  | bgpvpn _ => rfl
  | networkAssociation association | routerAssociation association =>
    rw [strip]
    split <;> rfl

theorem ofOwner_strip (removal : Removal) (owner : Option Bgpvpn) :
    Bag.ofOwner (owner.map removal.strip) = Bag.ofOwner owner := by
  cases owner with
  | none => rfl
  | some record => exact removal.ofBgpvpn_strip record

theorem interfacesOn_apply (removal : Removal) (inventory : Inventory) (networkId : String)
    {departing' : Departing} (either : departing' = .nothing ∨ departing' = removal.departing) :
    (removal.apply inventory).interfacesOn networkId departing' =
      inventory.interfacesOn networkId removal.departing := by
  rcases either with rfl | rfl <;> cases removal <;> rfl

/-- Once an object is gone, the inventory shows what it showed without the departing object,
whether the object is still named as departing or not. -/
theorem shows_apply (removal : Removal) {inventory : Inventory} (keyed : inventory.Keyed)
    {departing' : Departing} (either : departing' = .nothing ∨ departing' = removal.departing) :
    Inventory.Shows (removal.apply inventory) departing' inventory removal.departing
      removal.strip := by
  have interfaces (networkId : String) := removal.interfacesOn_apply inventory networkId either
  cases removal with
  | bgpvpn record =>
    refine ⟨fun networkId => ?_, fun routerId => ?_, interfaces⟩
    · rw [strip_bgpvpn, List.map_id, Inventory.direct, Inventory.direct]
      change List.filter _ (inventory.bgpvpns.filter _) = _
      rw [List.filter_filter]
      congr 1
      funext other
      by_cases same : other.id = record.id
      · simp [same, departing, Departing.dropsDirect, Departing.dropsBgpvpn]
      · rcases either with rfl | rfl <;>
          simp [same, Ne.symm same, departing, Departing.dropsDirect, Departing.dropsBgpvpn]
    · rw [strip_bgpvpn, Option.map_id, id, Inventory.ofRouter, Inventory.ofRouter]
      change List.find? _ (inventory.bgpvpns.filter _) = _
      rw [List.find?_filter]
      congr 1
      funext other
      by_cases same : other.id = record.id
      · simp [same, departing, Departing.dropsThroughRouter, Departing.dropsBgpvpn]
      · rcases either with rfl | rfl <;>
          simp [same, Ne.symm same, departing, Departing.dropsThroughRouter, Departing.dropsBgpvpn]
  | networkAssociation association =>
    refine .of_map (Topology.modifyFirst_eq_map keyed.bgpvpns _ _) (fun record networkId => ?_)
      (fun record routerId => ?_) interfaces
    · rw [strip_id]
      by_cases same : record.id = association.bgpvpnId
      · rcases either with rfl | rfl <;>
          simp [strip, same, departing, Departing.dropsDirect, Departing.dropsBgpvpn,
            Bgpvpn.hasNetwork, eq_comm (a := networkId)]
      · rcases either with rfl | rfl <;>
          simp [strip, same, Ne.symm same, departing, Departing.dropsDirect, Departing.dropsBgpvpn,
            Bgpvpn.hasNetwork]
    · rw [strip_id]
      by_cases same : record.id = association.bgpvpnId <;> rcases either with rfl | rfl <;>
        simp [strip, same, departing, Departing.dropsThroughRouter, Departing.dropsBgpvpn,
          Bgpvpn.hasRouter]
  | routerAssociation association =>
    refine .of_map (Topology.modifyFirst_eq_map keyed.bgpvpns _ _) (fun record networkId => ?_)
      (fun record routerId => ?_) interfaces
    · rw [strip_id]
      by_cases same : record.id = association.bgpvpnId <;> rcases either with rfl | rfl <;>
        simp [strip, same, departing, Departing.dropsDirect, Departing.dropsBgpvpn,
          Bgpvpn.hasNetwork]
    · rw [strip_id]
      by_cases same : record.id = association.bgpvpnId
      · rcases either with rfl | rfl <;>
          simp [strip, same, departing, Departing.dropsThroughRouter, Departing.dropsBgpvpn,
            Bgpvpn.hasRouter, eq_comm (a := routerId)]
      · rcases either with rfl | rfl <;>
          simp [strip, same, Ne.symm same, departing, Departing.dropsThroughRouter,
            Departing.dropsBgpvpn, Bgpvpn.hasRouter]

/-- The announcement settles the reached networks on their owners without the object. -/
theorem agenda_event (removal : Removal) (inventory : Inventory) :
    inventory.agenda removal.event =
      { assignments := (removal.reaches inventory).map fun networkId =>
          ⟨networkId, inventory.owner networkId removal.departing⟩ } := by
  cases removal with
  | bgpvpn record => rfl
  | networkAssociation association => rfl
  | routerAssociation association =>
    have same : (inventory.agenda (routerAssociation association).event).assignments =
        ((routerAssociation association).reaches inventory).map fun networkId =>
          ⟨networkId, inventory.owner networkId (routerAssociation association).departing⟩ := by
      apply List.map_congr_left
      intro networkId mem
      have free : inventory.direct networkId (routerAssociation association).departing = [] :=
        List.isEmpty_iff.mp (List.mem_filter.mp mem).2
      rw [Inventory.owner, free]
      rfl
    rw [← same]
    rfl

theorem reaches_apply (removal : Removal) {inventory : Inventory} (keyed : inventory.Keyed) :
    removal.reaches (removal.apply inventory) = removal.reaches inventory := by
  cases removal with
  | bgpvpn record => rfl
  | networkAssociation association => rfl
  | routerAssociation association =>
    have shows := (routerAssociation association).shows_apply keyed (.inl rfl)
    apply List.filter_congr
    intro networkId _
    rw [shows.direct_eq, List.isEmpty_map]
    rfl

/-- A settled announcement leaves every reached switch with what its owner after the removal calls
for. -/
theorem isSettled_of_announced (naming : Naming) (removal : Removal) {inventory : Inventory}
    (keyed : inventory.Keyed) {before after : Switches} {transactions : List Transaction}
    (performed : Performs naming False (inventory.agenda removal.event).assignments before (.ok ())
      after transactions) {networkId : String} (reached : networkId ∈ removal.reaches inventory) :
    Assignment.IsSettled naming
      ⟨networkId, (removal.apply inventory).owner networkId .nothing⟩ after := by
  obtain ⟨rfl, unrefused⟩ := performed.of_ok
  rw [agenda_event] at unrefused ⊢
  have listed := List.mem_map_of_mem (f := fun networkId =>
    (⟨networkId, inventory.owner networkId removal.departing⟩ : Assignment)) reached
  have settled := isSettled_effects naming
    (fun networkId => inventory.owner networkId removal.departing) (by simp) listed
    (unrefused _ listed)
  intro entry found
  rw [(removal.shows_apply keyed (.inl rfl)).owner_eq, ofOwner_strip]
  exact settled entry found

theorem eq_of_announced_again (naming : Naming) (removal : Removal) {inventory : Inventory}
    (keyed : inventory.Keyed) {before after again : Switches}
    {result : Except Fault Unit} {transactions transactions' : List Transaction}
    (performed : Performs naming False (inventory.agenda removal.event).assignments before (.ok ())
      after transactions)
    (repeated : Performs naming False ((removal.apply inventory).agenda removal.event).assignments
      after result again transactions') :
    result = .ok () ∧ again = after := by
  have settled : ∀ assignment ∈ ((removal.apply inventory).agenda removal.event).assignments,
      assignment.IsSettled naming after := by
    intro assignment mem
    rw [agenda_event, removal.reaches_apply keyed] at mem
    obtain ⟨networkId, reached, rfl⟩ := List.mem_map.mp mem
    have now := removal.isSettled_of_announced naming keyed performed reached
    rw [(removal.shows_apply keyed (.inl rfl)).owner_eq] at now
    rw [(removal.shows_apply keyed (.inr rfl)).owner_eq]
    exact now
  obtain ⟨rfl, rfl⟩ := repeated.eq_effects fun assignment mem =>
    (settled assignment mem).refusal?_eq
  exact ⟨rfl, effects_of_isSettled naming settled⟩

end Removal

/-- Looking ahead of a removal is looking at what is left after it.  A removal whose announcement is
accepted finds every reached switch settled for good, and may be announced again at no cost. -/
theorem removal_lookahead (naming : Naming) (removal : Removal) (site : Site)
    (built : site.inventory.Built) :
    let removed : Site := { site with inventory := removal.apply site.inventory }
    let outcome := (delivery naming removal.event).play Site.deployment site
    let after : Site := { outcome.state with inventory := removal.apply site.inventory }
    let again := (delivery naming removal.event).play Site.deployment after
    (∀ networkId, ((effective networkId .nothing).play Site.deployment removed).result =
      (((effective networkId removal.departing).play Site.deployment site).result).map
        (Option.map removal.strip)) ∧
    (∀ record, (removal.strip record).id = record.id ∧
      Bag.ofBgpvpn (removal.strip record) = Bag.ofBgpvpn record) ∧
    (outcome.result = .ok () →
      (∀ networkId ∈ removal.reaches site.inventory, ∀ entry,
        after.switches.switches.get? (naming.logicalName networkId) = some entry →
          ∃ owner, ((effective networkId .nothing).play Site.deployment after).result = .ok owner ∧
            Bag.ofOwner owner = .ok (Bag.evpnPart entry.bag)) ∧
      again.result = .ok () ∧ again.state.switches.switches = after.switches.switches) := by
  intro removed outcome after again
  have keyed := built.keyed
  refine ⟨fun networkId => ?_, fun record => ⟨removal.strip_id record,
    removal.ofBgpvpn_strip record⟩, fun accepted => ?_⟩
  · rw [effective_play, effective_play, Except.map, (removal.shows_apply keyed (.inl rfl)).owner_eq]
  · obtain ⟨settled, ended, performed⟩ := delivers naming removal.event site
    obtain ⟨settledAgain, endedAgain, repeated⟩ := delivers naming removal.event after
    have ending (inventory : Inventory) (result : Except Fault Unit) :
        (do result; (inventory.agenda removal.event).ending) = result := by
      rw [removal.agenda_event]
      cases result <;> rfl
    rw [ending] at ended endedAgain
    obtain rfl := ended.symm.trans accepted
    obtain ⟨rfl, same⟩ := removal.eq_of_announced_again naming keyed performed repeated
    refine ⟨fun networkId reached entry found => ?_, endedAgain, same⟩
    refine ⟨(removal.apply site.inventory).owner networkId .nothing, effective_play _ _ _, ?_⟩
    exact removal.isSettled_of_announced naming keyed performed reached entry found

def sharedSite : Site where
  inventory := (Inventory.putBgpvpn {}
    { id := "a", vpnType := "l3", vni := some 100, networks := ["n1"] }).putBgpvpn
    { id := "b", vpnType := "l2", vni := some 200, networks := ["n1"] }
  switches := Memory.add {} "neutron-n1" "uuid-1"

theorem removal_lookahead_sharedSite :
    let removal : Removal := .networkAssociation { bgpvpnId := "a", networkId := "n1" }
    let heir : Bgpvpn := { id := "b", vpnType := "l2", vni := some 200, networks := ["n1"] }
    let outcome := (delivery {} removal.event).play Site.deployment sharedSite
    let after : Site := { outcome.state with inventory := removal.apply sharedSite.inventory }
    outcome.result = .ok () ∧
      ((effective "n1" removal.departing).play Site.deployment sharedSite).result =
        .ok (some heir) ∧
      ((effective "n1" .nothing).play Site.deployment after).result = .ok (some heir) ∧
      ∃ entry, after.switches.switches.get? "neutron-n1" = some entry ∧
        Bag.ofBgpvpn heir = .ok (Bag.evpnPart entry.bag) ∧
        Bag.evpnPart entry.bag = .ofList [("type", "l2"), ("vni", "200")] := by
  intro removal heir outcome after
  have accepted : outcome.result = .ok () := by decide
  have there : (after.switches.switches.get? "neutron-n1").isSome = true := by decide
  obtain ⟨entry, found⟩ := Option.isSome_iff_exists.mp there
  have built : sharedSite.inventory.Built := .putBgpvpn _ (.putBgpvpn _ .empty)
  obtain ⟨settled, -⟩ := (removal_lookahead {} removal sharedSite built).2.2 accepted
  obtain ⟨resolved, answer, carried⟩ := settled "n1" (by decide) entry found
  have later : ((effective "n1" .nothing).play Site.deployment after).result =
      .ok (some heir) := by decide
  obtain rfl : resolved = some heir := Except.ok.inj (answer.symm.trans later)
  have bag : Bag.ofBgpvpn heir = .ok (.ofList [("type", "l2"), ("vni", "200")]) := by decide
  exact ⟨accepted, by decide, later, entry, found, carried, Except.ok.inj (carried.symm.trans bag)⟩

/-- Looking ahead of a dissociation finds the record of a BGPVPN that stays as it still is: it lists
the network that it is about to lose. -/
theorem lookahead_lists_departing_network :
    let record : Bgpvpn := { id := "b", vpnType := "l2", vni := some 200, networks := ["n1", "n2"] }
    let site : Site := { inventory := Inventory.putBgpvpn {} record }
    let removal : Removal := .networkAssociation { bgpvpnId := "b", networkId := "n2" }
    let removed : Site := { site with inventory := removal.apply site.inventory }
    let ahead := ((effective "n1" removal.departing).play Site.deployment site).result
    let afterwards := ((effective "n1" .nothing).play Site.deployment removed).result
    ahead = .ok (some record) ∧ afterwards = .ok (some { record with networks := ["n1"] }) ∧
      ahead ≠ afterwards := by
  decide

end EvpnMetadata.Reconcile
