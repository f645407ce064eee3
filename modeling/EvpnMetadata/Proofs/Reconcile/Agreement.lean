import EvpnMetadata.Proofs.Reconcile.Changes
import EvpnMetadata.Proofs.Reconcile.Restoration

/-! # Direct publications against sweeps

An event about a direct association publishes the BGPVPN that it names, while a sweep publishes the
first one that the network is listed by.  On a network with several direct associations the two
agree only if both BGPVPNs are published alike.
-/

namespace EvpnMetadata.Reconcile

open Vpn EvpnMetadata.Topology Switch Lifecycle

/-- The events that publish a BGPVPN on a network for the sake of their direct association. -/
inductive PublishesDirectly (inventory : Inventory) : Event → Bgpvpn → String → Prop where
  | association {association : NetworkAssociation} {bgpvpn : Bgpvpn}
    (recorded : inventory.record? association.bgpvpnId = some bgpvpn)
    (listed : association.networkId ∈ bgpvpn.networks) :
    PublishesDirectly inventory (.networkAssociationCreate .postcommit association) bgpvpn
      association.networkId
  | update {old new : Bgpvpn} {networkId : String}
    (recorded : inventory.record? new.id = some new)
    (significant : (Revision.mk old new).isCosmetic = false)
    (listed : networkId ∈ new.networks) :
    PublishesDirectly inventory (.bgpvpnUpdate .postcommit old new) new networkId

namespace PublishesDirectly

variable {inventory : Inventory} {event : Event} {bgpvpn : Bgpvpn} {networkId : String}

theorem mem_direct (publishes : PublishesDirectly inventory event bgpvpn networkId) :
    bgpvpn ∈ inventory.direct networkId .nothing := by
  cases publishes with
  | association recorded listed =>
    exact Inventory.mem_direct.mpr ⟨List.mem_of_find?_eq_some recorded, listed, rfl⟩
  | update recorded significant listed =>
    exact Inventory.mem_direct.mpr ⟨List.mem_of_find?_eq_some recorded, listed, rfl⟩

/-- Such an event settles several networks perhaps, all of them on the BGPVPN that it names. -/
theorem agenda_eq (publishes : PublishesDirectly inventory event bgpvpn networkId) :
    ∃ assignments, inventory.agenda event = { assignments } ∧
      (∀ assignment ∈ assignments, assignment.owner = some bgpvpn) ∧
      networkId ∈ assignments.map Assignment.networkId := by
  cases publishes with
  | @association association _ recorded listed =>
    refine ⟨[⟨association.networkId, some bgpvpn⟩], ?_, fun assignment mem => ?_,
      List.mem_singleton_self _⟩
    · rw [Inventory.agenda, Inventory.agendaOfRecord, recorded]
    · rw [List.mem_singleton.mp mem]
  | update recorded significant listed =>
    have record := List.mem_of_find?_eq_some recorded
    refine ⟨inventory.extent bgpvpn, ?_, fun assignment mem => ?_, ?_⟩
    · rw [Inventory.agenda, significant]
      rfl
    · exact (Inventory.owner_of_mem_extent record mem).1
    · exact Inventory.mem_networks_extent (.inl ⟨record, listed⟩)

end PublishesDirectly

variable (naming : Naming)

/-- An event of a direct association that is handled leaves the switch settled on the BGPVPN that it
names. -/
theorem get?_direct_publication {site : Site} {event : Event} {bgpvpn : Bgpvpn} {networkId : String}
    (publishes : PublishesDirectly site.inventory event bgpvpn networkId)
    (handled : ((delivery naming event).play Site.deployment site).result = .ok ()) {entry : Entry}
    (found : site.switches.switches.get? (naming.logicalName networkId) = some entry) :
    ∃ attributes, Bag.ofOwner (some bgpvpn) = .ok attributes ∧
      ((delivery naming event).play Site.deployment site).state.switches.switches.get?
        (naming.logicalName networkId) = some (settledEntry (some bgpvpn) entry) := by
  obtain ⟨assignments, planned, owned, named⟩ := publishes.agenda_eq
  obtain ⟨result, ended, performed⟩ := delivers naming event site
  rw [planned] at ended performed
  have settled : result = .ok () := by
    rw [handled] at ended
    cases result with
    | ok done => rfl
    | error fault => cases ended
  subst settled
  obtain ⟨after, unrefused⟩ := performed.of_ok
  obtain ⟨assignment, mem, rfl⟩ := List.mem_map.mp named
  obtain ⟨attributes, good⟩ := assignment.exists_attributes naming (unrefused assignment mem) found
  rw [owned assignment mem] at good
  refine ⟨attributes, good, ?_⟩
  rw [after, get?_effects naming (fun _ => some bgpvpn) owned, if_pos named, found]
  rfl

theorem get?_sweep_of_owner {site : Site} {bgpvpn : Bgpvpn} {networkId : String}
    (owned : site.inventory.owner networkId .nothing = some bgpvpn) :
    ((sweep naming).play Site.deployment site).state.switches.switches.get?
        (naming.logicalName networkId) =
      (site.switches.switches.get? (naming.logicalName networkId)).map
        (settledEntry (some bgpvpn)) := by
  have needed := List.contains_iff_mem.mpr (Inventory.mem_needed_of_owner owned)
  rw [get?_sweep, sweptRow_logicalName, owned, needed]
  refine congrArg (Option.map · _) (funext fun entry => ?_)
  rw [sweptEntry, Bool.or_true, if_pos rfl, visitedEntry]

/-- To settle a switch again on another BGPVPN changes nothing if that one cannot be published, or
is published alike. -/
theorem settledEntry_again_iff {first second : Bgpvpn} {attributes : Bag}
    (good : Bag.ofOwner (some second) = .ok attributes) (entry : Entry) :
    settledEntry (some first) (settledEntry (some second) entry) =
        settledEntry (some second) entry ↔
      first.vni = none ∨ Bag.ofBgpvpn first = Bag.ofBgpvpn second := by
  cases published : Bag.ofOwner (some first) with
  | error fault =>
    have unnumbered : first.vni = none := by
      by_contra numbered
      obtain ⟨other, known⟩ := (Bag.exists_ofBgpvpn_iff first).mpr numbered
      cases published.symm.trans known
    simp only [settledEntry, published, unnumbered, true_or]
  | ok other =>
    have numbered := (Bag.exists_ofBgpvpn_iff first).mp ⟨other, published⟩
    change _ ↔ _ ∨ Bag.ofOwner (some first) = Bag.ofOwner (some second)
    rw [published, good, Except.ok.injEq, settledEntry_settledEntry published]
    constructor
    · intro same
      refine .inr ?_
      rw [← evpnPart_settledEntry published entry, same, evpnPart_settledEntry good]
    · rintro (unnumbered | rfl)
      · exact absurd unnumbered numbered
      · rw [settledEntry_eq published, settledEntry_eq good]

/-- After an event of a direct association, the switch carries the BGPVPN that the event names.
That is what the network has to carry, and a sweep right afterwards leaves the switch alone, if the
one that is listed first is published alike. -/
theorem direct_publication_agrees {site : Site} {event : Event} {bgpvpn : Bgpvpn}
    {networkId : String} (publishes : PublishesDirectly site.inventory event bgpvpn networkId)
    (handled : ((delivery naming event).play Site.deployment site).result = .ok ()) {entry : Entry}
    (found : site.switches.switches.get? (naming.logicalName networkId) = some entry) :
    let after := ((delivery naming event).play Site.deployment site).state
    let swept := ((sweep naming).play Site.deployment after).state
    ∃ first later,
      ((effective networkId .nothing).play Site.deployment after).result = .ok (some first) ∧
      (site.inventory.direct networkId .nothing).head? = some first ∧
      after.switches.switches.get? (naming.logicalName networkId) = some later ∧
      Bag.ofBgpvpn bgpvpn = .ok (Bag.evpnPart later.bag) ∧
      (swept.switches.switches.get? (naming.logicalName networkId) = some later ↔
        first.vni = none ∨ Bag.ofBgpvpn first = Bag.ofBgpvpn bgpvpn) := by
  intro after swept
  obtain ⟨attributes, good, settled⟩ := get?_direct_publication naming publishes handled found
  obtain ⟨first, others, listed⟩ := List.exists_cons_of_ne_nil
    (List.ne_nil_of_mem publishes.mem_direct)
  have head : (site.inventory.direct networkId .nothing).head? = some first := by rw [listed]; rfl
  have still : after.inventory = site.inventory := Site.inventory_play _ site
  have owned : after.inventory.owner networkId .nothing = some first := by
    rw [still, Inventory.owner, head]
    rfl
  have carried : Bag.evpnPart (settledEntry (some bgpvpn) entry).bag = attributes :=
    evpnPart_settledEntry good entry
  refine ⟨first, settledEntry (some bgpvpn) entry, ?_, head, settled, ?_, ?_⟩
  · rw [effective_play, owned]
  · rw [carried]
    exact good
  · have answered := get?_sweep_of_owner naming owned
    rw [settled] at answered
    rw [answered, Option.map_some, Option.some.injEq]
    exact settledEntry_again_iff good entry

/-- The association of the BGPVPN that is listed first is announced again. -/
theorem direct_publication_agrees_sharedSite :
    let naming : Naming := {}
    let event : Event :=
      .networkAssociationCreate .postcommit { bgpvpnId := "a", networkId := "n1" }
    let outcome := (delivery naming event).play Site.deployment sharedSite
    let swept := ((sweep naming).play Site.deployment outcome.state).state
    outcome.result = .ok () ∧ ∃ first later,
      ((effective "n1" .nothing).play Site.deployment outcome.state).result = .ok (some first) ∧
      outcome.state.switches.switches.get? (naming.logicalName "n1") = some later ∧
      Bag.ofBgpvpn first = .ok (Bag.evpnPart later.bag) ∧
      swept.switches.switches.get? (naming.logicalName "n1") = some later := by
  intro naming event outcome swept
  have handled : outcome.result = .ok () := by decide
  have there : (sharedSite.switches.switches.get? (naming.logicalName "n1")).isSome = true := by
    decide
  obtain ⟨entry, found⟩ := Option.isSome_iff_exists.mp there
  let bgpvpn : Bgpvpn := { id := "a", vpnType := "l3", vni := some 100, networks := ["n1"] }
  have publishes : PublishesDirectly sharedSite.inventory event bgpvpn "n1" :=
    .association (by decide) (by decide)
  have listed : (sharedSite.inventory.direct "n1" .nothing).head? = some bgpvpn := by decide
  obtain ⟨first, later, resolved, head, left, carried, same⟩ :=
    direct_publication_agrees naming publishes handled found
  have equal : first = bgpvpn := Option.some.inj (head.symm.trans listed)
  subst equal swept outcome
  exact ⟨handled, bgpvpn, later, resolved, left, carried, same.mpr (.inr rfl)⟩

/-- The association of the BGPVPN that is listed second is announced.  The switch then carries that
one and not the one that the network has to carry, until a sweep replaces it. -/
theorem direct_publication_overridden :
    let first : Bgpvpn := { id := "a", vpnType := "l3", vni := some 100, networks := ["n1"] }
    let second : Bgpvpn := { id := "b", vpnType := "l2", vni := some 200, networks := ["n1"] }
    let event : Event :=
      .networkAssociationCreate .postcommit { bgpvpnId := "b", networkId := "n1" }
    let outcome := (delivery {} event).play Site.deployment sharedSite
    let swept := ((sweep {}).play Site.deployment outcome.state).state
    PublishesDirectly sharedSite.inventory event second "n1" ∧ outcome.result = .ok () ∧
    ((effective "n1" .nothing).play Site.deployment outcome.state).result = .ok (some first) ∧
    (outcome.state.switches.bag? "neutron-n1").map Bag.evpnPart =
      (Bag.ofBgpvpn second).toOption ∧
    Bag.ofBgpvpn second ≠ Bag.ofBgpvpn first ∧
    swept.switches.bag? "neutron-n1" ≠ outcome.state.switches.bag? "neutron-n1" := by
  intro first second event outcome swept
  exact ⟨.association (by decide) (by decide), by decide, by decide, by decide +kernel,
    by decide +kernel, by decide +kernel⟩

end EvpnMetadata.Reconcile
