import EvpnMetadata.Proofs.Reconcile.Agenda
import EvpnMetadata.Proofs.Switch.Advertisement
import EvpnMetadata.Topology.Inventory

/-! # What one call leaves on a switch

Publishing on a switch and withdrawing from it decide its EVPN keys, whatever its bag holds, and
leave the other writers' keys and every other switch as they are.  An aborted call leaves it all.
-/

namespace EvpnMetadata.Reconcile

open Vpn EvpnMetadata.Topology Switch

/-- One switch has another bag afterwards, and nothing else has changed on any switch. -/
structure Rebags (name : String) (bag : Bag) (before after : Switches) : Prop where
  target : after.get? name = (before.get? name).map fun entry => { entry with bag }
  others (other : String) (ne : other ≠ name) : after.get? other = before.get? other

/-- A call that found its switch and gave it a bag. -/
structure Writes (name : String) (bag : Bag) (before : Memory)
    (outcome : Outcome (π × τ × Memory) (Except Fault Bool)) : Prop where
  result : outcome.result = .ok true
  switches : Rebags name bag before.switches outcome.state.2.2.switches

/-- A call whose transaction was aborted, which is its fault and all that it leaves. -/
structure Aborts (name : String) (before : Memory)
    (outcome : Outcome (π × τ × Memory) (Except Fault Bool)) : Prop where
  result : outcome.result = .error (.transactionFailed name "injected transaction abort")
  memory : outcome.state.2.2 = before

variable {naming : Naming} {entry : Entry}

theorem rebags_effect {assignment : Assignment} {attributes : Bag} {switches : Switches}
    (found : switches.get? (naming.logicalName assignment.networkId) = some entry)
    (good : Bag.ofOwner assignment.owner = .ok attributes) :
    Rebags (naming.logicalName assignment.networkId) (Bag.carrying entry.bag attributes) switches
      (assignment.effect naming switches) where
  target := by
    rw [Assignment.get?_effect, if_pos rfl, found, Option.map_some, settledEntry_eq good,
      Option.map_some]
  others other ne := by
    rw [Assignment.get?_effect, if_neg ne]

/-- Posting what is settled already changes nothing, aborted or not. -/
theorem Posts.eq_of_effect_eq {mayAbort : Prop} {assignment : Assignment} {before after : Switches}
    {result : Except Fault Bool} {transactions : List Transaction}
    (posted : Posts naming mayAbort assignment before result after transactions)
    (settled : assignment.effect naming before = before) : after = before := by
  cases result with
  | ok there => rw [posted.of_ok.1, settled]
  | error fault => exact posted.of_error.1

section Calls

variable (source : Source τ) (draw : π → Bool × π) (plan : π) (topology : τ) {memory : Memory}

theorem post_of_drawn (assignment : Assignment) {attributes : Bag}
    (found : memory.switches.get? (naming.logicalName assignment.networkId) = some entry)
    (good : Bag.ofOwner assignment.owner = .ok attributes) (drawn : (draw plan).1 = true) :
    Aborts (naming.logicalName assignment.networkId) memory
      ((assignment.post naming).play (source.withSwitches.aborting draw)
        (plan, topology, memory)) := by
  have played : ((assignment.post naming).play (source.withSwitches.aborting draw)
      (plan, topology, memory)).quiet = _ :=
    quiet_post_found naming ((Deployment.withSwitches_reliable source).aborting draw) assignment
      found good
  obtain ⟨result, state, -⟩ := Outcome.of_quiet [_] played
  constructor
  · rw [result]
    simp [drawn, Deployment.aborting, Backend.aborting, Memory.row, Except.map]
  · rw [state]
    simp [drawn, Deployment.aborting, Backend.aborting]

theorem quiet_post_of_not_drawn (assignment : Assignment) {attributes : Bag}
    (found : memory.switches.get? (naming.logicalName assignment.networkId) = some entry)
    (good : Bag.ofOwner assignment.owner = .ok attributes) (drawn : (draw plan).1 = false) :
    ((assignment.post naming).play (source.withSwitches.aborting draw)
      (plan, topology, memory)).quiet =
        { result := .ok true
          state := ((draw plan).2, topology,
            { switches := assignment.effect naming memory.switches
              committed := memory.committed + 1 })
          marks := [.attempted (assignment.transaction naming attributes)] } := by
  rw [quiet_post_found naming ((Deployment.withSwitches_reliable source).aborting draw) assignment
    found good]
  have made := FiniteMap.insert_eq_modify (settledEntry assignment.owner) found
  rw [settledEntry_eq good] at made
  simp [drawn, Deployment.aborting, Backend.aborting, Topology.Source.withSwitches,
    Backend.onPart, Memory.backend, Memory.transact, Memory.row, found, Except.map,
    Assignment.effect, ← made, Bag.carrying]

theorem post_of_not_drawn (assignment : Assignment) {attributes : Bag}
    (found : memory.switches.get? (naming.logicalName assignment.networkId) = some entry)
    (good : Bag.ofOwner assignment.owner = .ok attributes) (drawn : (draw plan).1 = false) :
    Writes (naming.logicalName assignment.networkId) (Bag.carrying entry.bag attributes) memory
      ((assignment.post naming).play (source.withSwitches.aborting draw)
        (plan, topology, memory)) := by
  have played := quiet_post_of_not_drawn source draw plan topology assignment found good drawn
  obtain ⟨result, state, -⟩ := Outcome.of_quiet [_] played
  refine ⟨result, ?_⟩
  rw [state]
  exact rebags_effect found good

theorem advertisement_eq {deployment : Deployment σ} {part : σ → Memory} {mayAbort : Prop}
    (inMemory : deployment.InMemory part mayAbort) {networkId : String} {state : σ}
    (found : (part state).switches.get? (naming.logicalName networkId) = some entry) :
    ((advertisement naming networkId).play deployment state).result =
      Advertisement.ofBag entry.bag := by
  have looked := quiet_lookup inMemory (naming.logicalName networkId) state
  rw [Memory.lookup, found] at looked
  have read : ((advertisement naming networkId).play deployment state).quiet =
      { result := Advertisement.ofBag entry.bag, state } :=
    (Attempt.quiet_bind_ok looked _).trans rfl
  exact congrArg Outcome.result read

/-- After a call that was not aborted a network advertises what was posted. -/
theorem advertisement_post (assignment : Assignment) {attributes : Bag}
    (found : memory.switches.get? (naming.logicalName assignment.networkId) = some entry)
    (good : Bag.ofOwner assignment.owner = .ok attributes) (drawn : (draw plan).1 = false) :
    ((advertisement naming assignment.networkId).play (source.withSwitches.aborting draw)
      ((assignment.post naming).play (source.withSwitches.aborting draw)
        (plan, topology, memory)).state).result = Advertisement.ofBag attributes := by
  have left := (post_of_not_drawn source draw plan topology assignment found good
    drawn).switches.target
  rw [found, Option.map_some] at left
  rw [advertisement_eq ((Deployment.withSwitches_reliable source).aborting draw) left]
  exact Advertisement.ofBag_carrying (Bag.isEvpn_ofOwner good) entry.bag

theorem switches_post_again (assignment : Assignment) {attributes : Bag}
    (found : memory.switches.get? (naming.logicalName assignment.networkId) = some entry)
    (good : Bag.ofOwner assignment.owner = .ok attributes) (drawn : (draw plan).1 = false) :
    let once := ((assignment.post naming).play (source.withSwitches.aborting draw)
      (plan, topology, memory)).state
    ((assignment.post naming).play (source.withSwitches.aborting draw) once).state.2.2.switches =
      once.2.2.switches := by
  intro once
  have posted := posts naming ((Deployment.withSwitches_reliable source).aborting draw) assignment
    once
  apply posted.eq_of_effect_eq
  have settled : once.2.2.switches = assignment.effect naming memory.switches := by
    have played := quiet_post_of_not_drawn source draw plan topology assignment found good drawn
    obtain ⟨-, state, -⟩ := Outcome.of_quiet [_] played
    rw [show once = _ from state]
  rw [settled, Assignment.effect_idem]

/-- Whatever the bag of a switch holds, a publication replaces its EVPN keys by what it publishes
and a withdrawal removes them; an aborted call changes nothing. -/
theorem publication_exact {networkId : String}
    (found : memory.switches.get? (naming.logicalName networkId) = some entry) (bgpvpn : Bgpvpn) :
    let deployment := source.withSwitches.aborting draw
    let name := naming.logicalName networkId
    let published := (publish naming networkId bgpvpn).play deployment (plan, topology, memory)
    let withdrawn := (withdraw naming networkId).play deployment (plan, topology, memory)
    (bgpvpn.vni = none →
      published.result = .error (.missingAttribute driverName "vni") ∧
      published.transactions = [] ∧ published.state = (plan, topology, memory)) ∧
    (bgpvpn.vni ≠ none → ∃ attributes, Bag.ofBgpvpn bgpvpn = .ok attributes ∧
      ((draw plan).1 = false →
        Writes name ((Bag.foreignPart entry.bag).insertAll attributes.entries) memory published ∧
        ((advertisement naming networkId).play deployment published.state).result =
          Advertisement.ofBag attributes) ∧
      ((draw plan).1 = true → Aborts name memory published)) ∧
    ((draw plan).1 = false →
      Writes name (Bag.foreignPart entry.bag) memory withdrawn ∧
      ((advertisement naming networkId).play deployment withdrawn.state).result = .ok none ∧
      ((withdraw naming networkId).play deployment withdrawn.state).state.2.2.switches =
        withdrawn.state.2.2.switches) ∧
    ((draw plan).1 = true → Aborts name memory withdrawn) := by
  intro deployment name published withdrawn
  have inMemory := (Deployment.withSwitches_reliable source).aborting draw
  refine ⟨fun missing => ?_, fun numbered => ?_, fun drawn => ?_, fun drawn => ?_⟩
  · have bad : Bag.ofOwner (some bgpvpn) = .error (.missingAttribute driverName "vni") := by
      simp only [Bag.ofOwner, Bag.ofBgpvpn, missing]
    have refused : published.quiet = _ :=
      quiet_post_refused naming inMemory ⟨networkId, some bgpvpn⟩ found bad
    obtain ⟨result, state, transactions⟩ := Outcome.of_quiet [] refused
    exact ⟨result, transactions, state⟩
  · obtain ⟨attributes, built⟩ := (Bag.exists_ofBgpvpn_iff bgpvpn).mpr numbered
    refine ⟨attributes, built, fun drawn => ⟨?_, ?_⟩, fun drawn => ?_⟩
    · rw [← Bag.carrying_eq (Bag.isEvpn_ofBgpvpn built)]
      exact post_of_not_drawn source draw plan topology ⟨networkId, some bgpvpn⟩ found built drawn
    · exact advertisement_post source draw plan topology ⟨networkId, some bgpvpn⟩ found built drawn
    · exact post_of_drawn source draw plan topology ⟨networkId, some bgpvpn⟩ found built drawn
  · refine ⟨?_, ?_, ?_⟩
    · rw [← Bag.carrying_empty]
      exact post_of_not_drawn source draw plan topology ⟨networkId, none⟩ found rfl drawn
    · exact advertisement_post source draw plan topology ⟨networkId, none⟩ found rfl drawn
    · exact switches_post_again source draw plan topology ⟨networkId, none⟩ found rfl drawn
  · exact post_of_drawn source draw plan topology ⟨networkId, none⟩ found rfl drawn

end Calls

def staleMemory : Memory where
  switches := .ofList [("neutron-n1",
    { uuid := "u-1", bag := .ofList [("name", "private"), ("vni", "x"), ("local_pref", "-1")] })]

theorem publication_exact_stale :
    let deployment := Inventory.source.withSwitches.aborting AbortPlan.draw
    let published := (publish {} "n1" { id := "v1", vpnType := "l2", vni := some 100 }).play
      deployment ({}, {}, staleMemory)
    let withdrawn := (withdraw {} "n1").play deployment ({}, {}, staleMemory)
    published.result = .ok true ∧
      published.state.2.2.bag? "neutron-n1" =
        some (.ofList [("name", "private"), ("type", "l2"), ("vni", "100")]) ∧
      withdrawn.state.2.2.bag? "neutron-n1" = some (.ofList [("name", "private")]) := by
  intro deployment published withdrawn
  have found : staleMemory.switches.get? (Naming.logicalName {} "n1") = some
      { uuid := "u-1"
        bag := .ofList [("name", "private"), ("vni", "x"), ("local_pref", "-1")] } := by decide
  obtain ⟨-, publishes, withdraws, -⟩ := publication_exact Inventory.source AbortPlan.draw {} {}
    found { id := "v1", vpnType := "l2", vni := some 100 }
  obtain ⟨attributes, built, published, -⟩ := publishes (by decide)
  obtain ⟨written, -⟩ := published rfl
  obtain ⟨removed, -⟩ := withdraws rfl
  have known : Bag.ofBgpvpn { id := "v1", vpnType := "l2", vni := some 100 } =
      .ok (.ofList [("type", "l2"), ("vni", "100")]) := by decide +kernel
  cases Except.ok.inj (built.symm.trans known)
  have after := written.switches.target
  have left := removed.switches.target
  rw [found] at after left
  refine ⟨written.result, ?_, ?_⟩
  · exact (congrArg (Option.map Entry.bag) after).trans (by decide +kernel)
  · exact (congrArg (Option.map Entry.bag) left).trans (by decide +kernel)

end EvpnMetadata.Reconcile
