import EvpnMetadata.Proofs.Reconcile.Changes

/-! # Updates of a BGPVPN

An update that changes more than the description publishes the new record on every network that the
new record reaches, unless another BGPVPN is associated with the network directly.  The old record
is only compared with the new one: a network that the new record has given up is left to the events
of dissociation.
-/

namespace EvpnMetadata.Topology.Inventory

open Vpn Switch Lifecycle Reconcile

variable {inventory : Inventory} {bgpvpn : Bgpvpn} {networkId : String}

def Shielded (inventory : Inventory) (bgpvpn : Bgpvpn) (networkId : String) : Prop :=
  ∃ other, inventory.Direct networkId other ∧ other ≠ bgpvpn

theorem mem_reached_of_mayOwn (may : inventory.MayOwn networkId (some bgpvpn)) :
    networkId ∈ inventory.reached bgpvpn :=
  mem_reached.mpr (may.imp And.right fun routed => routed.2.2)

/-- A BGPVPN is a candidate for the networks that it reaches and no other one shields. -/
theorem mayOwn_of_mem_reached (record : bgpvpn ∈ inventory.bgpvpns)
    (reached : networkId ∈ inventory.reached bgpvpn)
    (unshielded : ¬inventory.Shielded bgpvpn networkId) :
    inventory.MayOwn networkId (some bgpvpn) := by
  by_cases direct : inventory.Direct networkId bgpvpn
  · exact .inl direct
  · have free (other : Bgpvpn) (claim : inventory.Direct networkId other) : False :=
      unshielded ⟨other, claim, fun same => direct (same ▸ claim)⟩
    rcases mem_reached.mp reached with own | routed
    · exact absurd ⟨record, own⟩ direct
    · exact .inr ⟨free, record, routed⟩

/-- Where ownership is clear, a candidate is shielded by nobody. -/
theorem Unambiguous.not_shielded (clear : inventory.Unambiguous networkId)
    (may : inventory.MayOwn networkId (some bgpvpn)) : ¬inventory.Shielded bgpvpn networkId := by
  rintro ⟨other, claim, differ⟩
  rcases may with direct | ⟨free, _⟩
  · exact differ (clear.direct claim direct)
  · exact free other claim

end EvpnMetadata.Topology.Inventory

namespace EvpnMetadata.Reconcile

open Vpn EvpnMetadata.Topology Switch Lifecycle

theorem assignments_update (inventory : Inventory) (old new : Bgpvpn) :
    (inventory.agenda (.bgpvpnUpdate .postcommit old new)).assignments =
      if (Revision.mk old new).isCosmetic then [] else inventory.extent new := by
  rw [Inventory.agenda]
  split <;> rfl

/-- Once the extent of a record is settled, every network that it reaches carries it, unless another
BGPVPN shields the network. -/
theorem isSettled_extent (naming : Naming) {inventory : Inventory} {bgpvpn : Bgpvpn}
    (record : bgpvpn ∈ inventory.bgpvpns) {switches : Switches}
    (unrefused : ∀ assignment ∈ inventory.extent bgpvpn,
      assignment.refusal? naming switches = none)
    {networkId : String} (reached : networkId ∈ inventory.reached bgpvpn)
    (unshielded : ¬inventory.Shielded bgpvpn networkId) :
    Assignment.IsSettled naming ⟨networkId, some bgpvpn⟩
      (effects naming (inventory.extent bgpvpn) switches) := by
  have owned (assignment : Assignment) (mem : assignment ∈ inventory.extent bgpvpn) :
      assignment.owner = some bgpvpn := (Inventory.owner_of_mem_extent record mem).1
  have may := Inventory.mayOwn_of_mem_reached record reached unshielded
  obtain ⟨assignment, listed, rfl⟩ := List.mem_map.mp (Inventory.mem_networks_extent may)
  have settled := isSettled_effects naming (fun _ => some bgpvpn) owned listed
    (unrefused assignment listed)
  rwa [Assignment.IsSettled, owned assignment listed] at settled

theorem get?_effects_extent (naming : Naming) {inventory : Inventory} {bgpvpn : Bgpvpn}
    (record : bgpvpn ∈ inventory.bgpvpns)
    (clear : ∀ networkId ∈ inventory.reached bgpvpn, inventory.Unambiguous networkId)
    {name : String} (others : ∀ networkId ∈ inventory.reached bgpvpn,
      ¬inventory.Shielded bgpvpn networkId → name ≠ naming.logicalName networkId)
    (switches : Switches) :
    (effects naming (inventory.extent bgpvpn) switches).get? name = switches.get? name := by
  apply get?_effects_of_ne
  intro assignment mem
  have may := (Inventory.owner_of_mem_extent record mem).2
  have reached := Inventory.mem_reached_of_mayOwn may
  exact others _ reached ((clear _ reached).not_shielded may)

/-- A cosmetic update has nothing to settle, since what the old record called for is what the new
one calls for. -/
theorem isSettled_of_isCosmetic {naming : Naming} {inventory : Inventory} {old new : Bgpvpn}
    (cosmetic : (Revision.mk old new).isCosmetic = true) {switches : Switches}
    (carried : ∀ networkId ∈ inventory.reached old, ¬inventory.Shielded new networkId →
      Assignment.IsSettled naming ⟨networkId, some old⟩ switches)
    {networkId : String} (reached : networkId ∈ inventory.reached new)
    (unshielded : ¬inventory.Shielded new networkId) :
    Assignment.IsSettled naming ⟨networkId, some new⟩ switches := by
  obtain ⟨networks, routers⟩ := Revision.associations_of_isCosmetic cosmetic
  have before : networkId ∈ inventory.reached old := by
    rw [Inventory.mem_reached] at reached ⊢
    rwa [networks, routers]
  have same : Bag.ofBgpvpn new = Bag.ofBgpvpn old := Revision.ofBgpvpn_of_isCosmetic cosmetic
  intro entry found
  exact same.trans (carried networkId before unshielded entry found)

/-- After an update, every network that the new record reaches and no other BGPVPN shields carries
what is effective, which is the new record.  All others are left alone, those that only the old
record reached among them. -/
theorem update_follows_new_record (naming : Naming) {site : Site} {old new : Bgpvpn}
    (recorded : site.inventory.record? new.id = some new)
    (clear : ∀ networkId ∈ site.inventory.reached new, site.inventory.Unambiguous networkId)
    (carried : ∀ networkId ∈ site.inventory.reached old,
      ¬site.inventory.Shielded new networkId →
        Assignment.IsSettled naming ⟨networkId, some old⟩ site.switches.switches)
    (handled : ((delivery naming (.bgpvpnUpdate .postcommit old new)).play Site.deployment
      site).result = .ok ()) :
    let after := ((delivery naming (.bgpvpnUpdate .postcommit old new)).play Site.deployment
      site).state
    (∀ networkId ∈ site.inventory.reached new, ¬site.inventory.Shielded new networkId →
      ((effective networkId .nothing).play Site.deployment after).result = .ok (some new) ∧
      Assignment.IsSettled naming ⟨networkId, some new⟩ after.switches.switches) ∧
    ∀ name, (∀ networkId ∈ site.inventory.reached new, ¬site.inventory.Shielded new networkId →
        name ≠ naming.logicalName networkId) →
      after.switches.switches.get? name = site.switches.switches.get? name := by
  have record := List.mem_of_find?_eq_some recorded
  have performed := effects_of_handled naming handled
  have still := Site.inventory_play (delivery naming (.bgpvpnUpdate .postcommit old new)) site
  generalize (delivery naming (.bgpvpnUpdate .postcommit old new)).play Site.deployment site =
    outcome at performed still ⊢
  obtain ⟨settled, unrefused⟩ := performed
  rw [assignments_update] at settled unrefused
  intro after
  rw [show after.switches.switches = _ from settled]
  refine ⟨fun networkId reached unshielded => ⟨?_, ?_⟩, fun name others => ?_⟩
  · rw [effective_play, show after.inventory = _ from still]
    exact congrArg Except.ok ((clear networkId reached).eq
      (Inventory.mayOwn_owner site.inventory networkId)
      (Inventory.mayOwn_of_mem_reached record reached unshielded))
  · split
    · next cosmetic => exact isSettled_of_isCosmetic cosmetic carried reached unshielded
    · next significant =>
      rw [if_neg significant] at unrefused
      exact isSettled_extent naming record unrefused reached unshielded
  · split
    · rfl
    · exact get?_effects_extent naming record clear others _

/-- A site with two networks that carry an earlier record, of which the recorded one has kept the
second network only. -/
def narrowedSite : Site where
  inventory := Inventory.putBgpvpn {}
    { id := "a", vpnType := "l3", vni := some 100, localPref := some 200, networks := ["n2"] }
  switches := ["neutron-n1", "neutron-n2"].foldl (fun switches name =>
    ((switches.add name ("uuid-" ++ name)).setKey name "type" "l3").setKey name "vni" "100") {}

theorem update_follows_new_record_narrowedSite :
    let old : Bgpvpn := { id := "a", vpnType := "l3", vni := some 100, networks := ["n1", "n2"] }
    let new : Bgpvpn :=
      { id := "a", vpnType := "l3", vni := some 100, localPref := some 200, networks := ["n2"] }
    let outcome := (delivery {} (.bgpvpnUpdate .postcommit old new)).play Site.deployment
      narrowedSite
    outcome.result = .ok () ∧
    ((effective "n2" .nothing).play Site.deployment outcome.state).result = .ok (some new) ∧
    Assignment.IsSettled {} ⟨"n2", some new⟩ outcome.state.switches.switches ∧
    outcome.state.switches.switches.get? "neutron-n1" =
      narrowedSite.switches.switches.get? "neutron-n1" := by
  intro old new outcome
  have handled : outcome.result = .ok () := by decide
  have recorded : narrowedSite.inventory.record? new.id = some new := by decide
  have elsewhere : ∀ networkId ∈ narrowedSite.inventory.reached new,
      "neutron-n1" ≠ Naming.logicalName {} networkId := by decide
  have only {other : Bgpvpn} (record : other ∈ narrowedSite.inventory.bgpvpns) : other = new :=
    List.mem_singleton.mp record
  have clear : ∀ networkId ∈ narrowedSite.inventory.reached new,
      narrowedSite.inventory.Unambiguous networkId := fun networkId _ =>
    ⟨fun h h' => (only h.1).trans (only h'.1).symm,
      fun _ _ _ h h' => (only h.1).trans (only h'.1).symm⟩
  have carried : ∀ networkId ∈ narrowedSite.inventory.reached old,
      Assignment.IsSettled {} ⟨networkId, some old⟩ narrowedSite.switches.switches := by
    decide +kernel
  have unshielded : ¬narrowedSite.inventory.Shielded new "n2" :=
    fun ⟨_, direct, differ⟩ => differ (only direct.1)
  obtain ⟨settled, kept⟩ := update_follows_new_record {} recorded clear
    (fun networkId reached _ => carried networkId reached) handled
  obtain ⟨resolved, published⟩ := settled "n2" (by decide) unshielded
  subst outcome
  exact ⟨handled, resolved, published,
    kept "neutron-n1" fun networkId reached _ => elsewhere networkId reached⟩

/-- The update narrows the record from two networks to one.  Nobody reaches the first network any
more, and yet its switch still carries the old record. -/
theorem update_leaves_given_up_network :
    let old : Bgpvpn := { id := "a", vpnType := "l3", vni := some 100, networks := ["n1", "n2"] }
    let new : Bgpvpn :=
      { id := "a", vpnType := "l3", vni := some 100, localPref := some 200, networks := ["n2"] }
    let outcome := (delivery {} (.bgpvpnUpdate .postcommit old new)).play Site.deployment
      narrowedSite
    narrowedSite.inventory.bgpvpns = [new] ∧
    (∀ networkId ∈ narrowedSite.inventory.reached old,
      Assignment.IsSettled {} ⟨networkId, some old⟩ narrowedSite.switches.switches) ∧
    outcome.result = .ok () ∧ "n1" ∈ narrowedSite.inventory.reached old ∧
    ((effective "n1" .nothing).play Site.deployment outcome.state).result = .ok none ∧
    ¬Assignment.IsSettled {} ⟨"n1", none⟩ outcome.state.switches.switches ∧
    outcome.state.switches.switches.get? "neutron-n1" =
      narrowedSite.switches.switches.get? "neutron-n1" := by
  intro old new outcome
  exact ⟨by decide, by decide +kernel, by decide, by decide, by decide, by decide +kernel,
    by decide⟩

end EvpnMetadata.Reconcile
