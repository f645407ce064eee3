import EvpnMetadata.Proofs.Reconcile.Candidates
import EvpnMetadata.Proofs.Reconcile.Draws
import EvpnMetadata.Proofs.Reconcile.Removal

/-! # Interrupted removals

The announcement of a removal converges one network after the other and stops at the first fault,
whether a transaction is aborted or the BGPVPN that a network falls back on cannot be published.
So a removal that is refused leaves a first part of its networks as they have to be without the
object and all others as they were, and an accepted one has committed whatever it attempted.
-/

namespace EvpnMetadata.Reconcile

open Vpn EvpnMetadata.Topology Switch Lifecycle

theorem nodup_firsts [DecidableEq α] (items : List α) : (firsts id items).Nodup := by
  induction items with
  | nil => exact List.nodup_nil
  | cons head rest ih =>
    rw [firsts, List.nodup_cons]
    exact ⟨by simp, ih.filter _⟩

theorem nodup_appendNew {items : List String} (nodup : items.Nodup) (more : List String) :
    (appendNew items more).Nodup := by
  induction more generalizing items with
  | nil => exact nodup
  | cons head rest ih =>
    change (appendNew (if items.contains head then items else items ++ [head]) rest).Nodup
    apply ih
    split
    · exact nodup
    · next fresh =>
      rw [List.nodup_append_comm, List.singleton_append, List.nodup_cons]
      exact ⟨by simpa using fresh, nodup⟩

theorem nodup_foldl_appendNew (more : α → List String) (sources : List α) {items : List String}
    (nodup : items.Nodup) :
    (sources.foldl (fun found source => appendNew found (more source)) items).Nodup := by
  induction sources generalizing items with
  | nil => exact nodup
  | cons head rest ih => exact ih (nodup_appendNew nodup _)

/-- A split of the chosen items is a split of all of them, right before a chosen one. -/
theorem exists_of_map_filter_eq {f : α → β} {chosen : α → Bool} {items : List α}
    {done later : List β} {next : β}
    (split : (items.filter chosen).map f = done ++ next :: later) :
    ∃ earlier item others, items = earlier ++ item :: others ∧
      (earlier.filter chosen).map f = done ∧ f item = next := by
  obtain ⟨_, _, parts, rfl, rest⟩ := List.map_eq_append_iff.mp split
  obtain ⟨item, _, rfl, same, _⟩ := List.map_eq_cons_iff.mp rest
  obtain ⟨first, _, rfl, rfl, tail⟩ := List.filter_eq_append_iff.mp parts
  obtain ⟨passed, others, rfl, unchosen, _, _⟩ := List.filter_eq_cons_iff.mp tail
  refine ⟨first ++ passed, item, others, (List.append_assoc ..).symm, ?_, same⟩
  rw [List.filter_append, List.filter_eq_nil_iff.mpr unchosen, List.append_nil]

section Stop

variable {naming : Naming} {mayAbort : Prop} {assignments : List Assignment}
  {before after : Switches} {transactions : List Transaction}

/-- Settling that ends in a fault has settled what comes before some assignment, and nothing
else. -/
theorem Performs.exists_stop {fault : Fault}
    (h : Performs naming mayAbort assignments before (.error fault) after transactions) :
    ∃ done failed later, assignments = done ++ failed :: later ∧
      after = effects naming done before ∧
      ∀ assignment ∈ done, assignment.refusal? naming before = none := by
  generalize ended : Except.error fault = result at h
  induction h with
  | nil switches => cases ended
  | @cons assignment rest before middle _ _ _ _ _ posted performed ih =>
    obtain ⟨done, failed, later, rfl, rfl, unrefused⟩ := ih ended
    obtain ⟨rfl, taken⟩ := posted.of_ok
    refine ⟨assignment :: done, failed, later, rfl, rfl, ?_⟩
    refine List.forall_mem_cons.mpr ⟨taken, fun earlier mem => ?_⟩
    rw [← unrefused earlier mem]
    exact (refusal?_effects naming [assignment] earlier before).symm
  | @stop assignment _ _ _ _ rest failed =>
    exact ⟨[], assignment, rest, rfl, failed.of_error.1, by simp⟩

end Stop

theorem unaborted_settleAll (naming : Naming) {deployment : Deployment σ} {memory : σ → Memory}
    (h : deployment.Reliable memory) (draw : π → Bool × π) (assignments : List Assignment)
    (state : π × σ)
    (ended : ((settleAll naming assignments).play (deployment.aborting draw) state).result =
      .ok ()) :
    true ∉ decisions draw
      ((settleAll naming assignments).play (deployment.aborting draw) state).transactions.length
      state.1 := by
  rw [← aborted_eq_nil_iff]
  induction assignments generalizing state with
  | nil => rfl
  | cons assignment rest ih =>
    have posted := posts naming (h.aborting draw) assignment state
    have failing := (post_fails_iff naming h draw assignment state).mpr
    rw [settleAll_cons, Attempt.play_bind, play_discard] at ended ⊢
    cases result : ((assignment.post naming).play (deployment.aborting draw) state).result with
    | error fault =>
      rw [result] at ended
      cases ended
    | ok there =>
      rw [result] at ended
      have committed : aborted draw state.1
          ((assignment.post naming).play (deployment.aborting draw) state).transactions = [] := by
        by_contra lost
        have there := posted.contains_of_attempted fun none => lost (by rw [none, aborted])
        obtain ⟨_, failed⟩ := failing ⟨there, .inl lost⟩
        cases result.symm.trans failed
      simp only [Except.map, Outcome.transactions_after]
      refine (aborted_append draw state.1 _ _).trans (List.append_eq_nil_iff.mpr ⟨committed, ?_⟩)
      have drew := deployment.plan_play_aborting draw (assignment.post naming) state
      exact (congrArg (aborted draw · _) drew.symm).trans (ih _ ended)

namespace Removal

def visited (removal : Removal) (inventory : Inventory) : List String :=
  match removal with
  | bgpvpn record => inventory.reached record
  | networkAssociation association => [association.networkId]
  | routerAssociation association => inventory.connected association.routerId

def Spares (removal : Removal) (inventory : Inventory) (networkId : String) : Prop :=
  ∃ association, removal = routerAssociation association ∧
    ∃ bgpvpn, inventory.Direct networkId bgpvpn

def ListsOnce (removal : Removal) : Prop :=
  ∀ record, removal = bgpvpn record → record.networks.Nodup

/-- A network is as it has to be without the object: it carries what is effective then, or it is
spared and has not changed. -/
structure Converged (naming : Naming) (removal : Removal) (site : Site) (after : Switches)
    (networkId : String) : Prop where
  spared (spares : removal.Spares site.inventory networkId) :
    after.get? (naming.logicalName networkId) =
      site.switches.switches.get? (naming.logicalName networkId)
  settled (taken : ¬removal.Spares site.inventory networkId) {entry : Entry}
    (found : after.get? (naming.logicalName networkId) = some entry) :
    ∃ owner, ((effective networkId removal.departing).play Site.deployment site).result =
      .ok owner ∧ Bag.ofOwner owner = .ok (Bag.evpnPart entry.bag)

variable {removal : Removal} {inventory : Inventory}

theorem ListsOnce.nodup_visited (once : removal.ListsOnce) (inventory : Inventory) :
    (removal.visited inventory).Nodup := by
  cases removal with
  | bgpvpn record =>
    exact nodup_foldl_appendNew inventory.connected record.routers (once record rfl)
  | networkAssociation association => exact List.nodup_singleton _
  | routerAssociation association => exact nodup_firsts _

theorem reaches_eq_filter (removal : Removal) (inventory : Inventory) :
    ∃ taken : String → Bool, removal.reaches inventory = (removal.visited inventory).filter taken ∧
      ∀ networkId, taken networkId = true ↔ ¬removal.Spares inventory networkId := by
  cases removal with
  | bgpvpn record =>
    exact ⟨fun _ => true, (List.filter_true _).symm, by simp [Spares]⟩
  | networkAssociation association =>
    exact ⟨fun _ => true, (List.filter_true _).symm, by simp [Spares]⟩
  | routerAssociation association =>
    refine ⟨_, rfl, fun networkId => ?_⟩
    rw [List.isEmpty_iff, Inventory.direct_eq_nil_iff]
    simp [Spares]

/-- Once a first part of the networks is settled, it has converged, and all else is as before. -/
theorem converged_effects (removal : Removal) (naming : Naming) (site : Site)
    {visited : List String} {taken : String → Bool}
    (spares : ∀ networkId, taken networkId = true ↔ ¬removal.Spares site.inventory networkId)
    (unrefused : ∀ networkId ∈ visited.filter taken, Assignment.refusal? naming
      ⟨networkId, site.inventory.owner networkId removal.departing⟩ site.switches.switches = none) :
    let after := effects naming ((visited.filter taken).map fun networkId =>
      ⟨networkId, site.inventory.owner networkId removal.departing⟩) site.switches.switches
    (∀ networkId ∈ visited, removal.Converged naming site after networkId) ∧
    ∀ name, (∀ networkId ∈ visited, name ≠ naming.logicalName networkId) →
      after.get? name = site.switches.switches.get? name := by
  intro after
  have untouched {name : String}
      (others : ∀ networkId ∈ visited.filter taken, name ≠ naming.logicalName networkId) :
      after.get? name = site.switches.switches.get? name := by
    apply get?_effects_of_ne
    intro assignment mem
    obtain ⟨networkId, listed, rfl⟩ := List.mem_map.mp mem
    exact others networkId listed
  refine ⟨fun networkId mem => ⟨fun spared => ?_, fun settled entry found => ?_⟩,
    fun name others => untouched fun networkId mem => others networkId (List.mem_of_mem_filter mem)⟩
  · apply untouched
    rintro other listed same
    rw [naming.logicalName_inj] at same
    subst same
    exact (spares networkId).mp (List.mem_filter.mp listed).2 spared
  · have listed : networkId ∈ visited.filter taken :=
      List.mem_filter.mpr ⟨mem, (spares networkId).mpr settled⟩
    refine ⟨_, effective_play site networkId removal.departing, ?_⟩
    exact isSettled_effects naming
      (fun networkId => site.inventory.owner networkId removal.departing)
      (List.forall_mem_map.mpr fun _ _ => rfl) (List.mem_map_of_mem listed)
      (unrefused networkId listed) entry found

/-- An announcement settles the networks that are not spared, in order. -/
theorem announced_eq_settleAll (removal : Removal) (naming : Naming) (draw : π → Bool × π)
    (plan : π) (site : Site) :
    let outcome := (delivery naming removal.event).play (Site.deployment.aborting draw) (plan, site)
    let settled := (settleAll naming ((removal.reaches site.inventory).map fun networkId =>
      ⟨networkId, site.inventory.owner networkId removal.departing⟩)).play
        (Site.deployment.aborting draw) (plan, site)
    outcome.result = settled.result ∧ outcome.state = settled.state ∧
      outcome.transactions = settled.transactions := by
  intro outcome settled
  obtain ⟨result, after, attempts⟩ := Outcome.of_quiet _
    (quiet_delivery naming (Site.deployment.aborting draw) removal.event (plan, site))
  have still : (Site.deployment.aborting draw).topology.frozen (plan, site) =
      site.inventory.still := rfl
  have follows : Follows naming _ _ _ := .handle site.inventory.still removal.event
  obtain ⟨result', after', attempts'⟩ :=
    follows.play_eq (Deployment.site_reliable.aborting draw) still
  rw [site.inventory.plan_still, agenda_event] at result' after' attempts'
  refine ⟨result.trans (result'.trans ?_), after.trans after', attempts.trans attempts'⟩
  change (settled.result >>= fun _ => Except.ok ()) = settled.result
  cases settled.result <;> rfl

end Removal

/-- A removal that is refused stops at one network: the networks before it are as they have to be
without the object, and that network, the later ones and every other row are as they were.  A
removal is accepted only if none of its transactions is aborted and every network that it goes
through is as it has to be. -/
theorem removal_fails_closed (naming : Naming) (draw : π → Bool × π) (plan : π) (removal : Removal)
    (once : removal.ListsOnce) (site : Site) :
    let outcome := (delivery naming removal.event).play (Site.deployment.aborting draw) (plan, site)
    let before := site.switches.switches
    let after := outcome.state.2.switches.switches
    let visited := removal.visited site.inventory
    KeepsForeign naming before after ∧
    (∀ fault, outcome.result = .error fault →
      ∃ done stopped later, visited = done ++ stopped :: later ∧
        (∀ networkId ∈ done, removal.Converged naming site after networkId) ∧
        (∀ networkId ∈ stopped :: later,
          after.get? (naming.logicalName networkId) = before.get? (naming.logicalName networkId)) ∧
        ∀ name, (∀ networkId ∈ visited, name ≠ naming.logicalName networkId) →
          after.get? name = before.get? name) ∧
    (outcome.result = .ok () →
      true ∉ decisions draw outcome.transactions.length plan ∧
      (∀ networkId ∈ visited, removal.Converged naming site after networkId) ∧
      ∀ name, (∀ networkId ∈ visited, name ≠ naming.logicalName networkId) →
        after.get? name = before.get? name) := by
  intro outcome before after visited
  obtain ⟨result, state, attempts⟩ := removal.announced_eq_settleAll naming draw plan site
  have inMemory := Deployment.site_reliable.aborting draw
  have performed := performs naming inMemory ((removal.reaches site.inventory).map fun networkId =>
    ⟨networkId, site.inventory.owner networkId removal.departing⟩) (plan, site)
  have committed := unaborted_settleAll naming Deployment.site_reliable draw
    ((removal.reaches site.inventory).map fun networkId =>
      ⟨networkId, site.inventory.owner networkId removal.departing⟩) (plan, site)
  obtain ⟨taken, reaches, spares⟩ := removal.reaches_eq_filter site.inventory
  rw [← result, ← attempts] at committed
  rw [← result, ← state, ← attempts, reaches] at performed
  refine ⟨?_, fun fault failed => ?_, fun accepted => ?_⟩
  · obtain ⟨done, _, same⟩ := performed.exists_done
    rw [show after = effects naming done before from same]
    exact keepsForeign_effects naming done before
  · rw [failed] at performed
    obtain ⟨done, stopped, later, split, same, unrefused⟩ := performed.exists_stop
    obtain ⟨earlier, networkId, others, parts, rfl, _⟩ := exists_of_map_filter_eq split
    have nodup := parts ▸ once.nodup_visited site.inventory
    obtain ⟨converged, kept⟩ := removal.converged_effects naming site spares
      (List.forall_mem_map.mp unrefused)
    rw [← same] at converged kept
    refine ⟨earlier, networkId, others, parts, converged, fun other mem => ?_,
      fun name apart => kept name fun other mem => apart other ?_⟩
    · refine kept _ fun done mem' equal => ?_
      rw [naming.logicalName_inj] at equal
      exact (List.nodup_append.mp nodup).2.2 done mem' other mem equal.symm
    · rw [show visited = earlier ++ networkId :: others from parts]
      exact List.mem_append_left _ mem
  · rw [accepted] at performed
    obtain ⟨same, unrefused⟩ := performed.of_ok
    obtain ⟨converged, kept⟩ := removal.converged_effects naming site spares
      (List.forall_mem_map.mp unrefused)
    rw [← same] at converged kept
    exact ⟨committed accepted, converged, kept⟩

def retreatSite : Site where
  inventory := ((Inventory.attach {} "r1" "n1" "s1").putBgpvpn
    { id := "a", vpnType := "l3", vni := some 100, networks := ["n1", "n2", "n3"] }).putBgpvpn
    { id := "b", vpnType := "l3", vni := some 200, routers := ["r1"] }
  switches := ["n1", "n2", "n3"].foldl (fun switches networkId =>
    (switches.add ("neutron-" ++ networkId) ("uuid-" ++ networkId)).setKey
      ("neutron-" ++ networkId) "vni" "100") {}

/-- The second transaction of a removal is aborted: the first network has fallen back on the router,
and the other two are as they were. -/
theorem removal_fails_closed_secondNetwork :
    let removal : Removal := .bgpvpn
      { id := "a", vpnType := "l3", vni := some 100, networks := ["n1", "n2", "n3"] }
    let draw (plan : List Bool) : Bool × List Bool := (plan.headD false, plan.tail)
    let outcome := (delivery {} removal.event).play (Site.deployment.aborting draw)
      ([false, true], retreatSite)
    let after := outcome.state.2.switches.switches
    outcome.result =
      .error (.transactionFailed "neutron-n2" "injected transaction abort") ∧
    removal.visited retreatSite.inventory = ["n1", "n2", "n3"] ∧
    ∃ done stopped later, ["n1", "n2", "n3"] = done ++ stopped :: later ∧
      (∀ networkId ∈ done, removal.Converged {} retreatSite after networkId) ∧
      ∀ networkId ∈ stopped :: later, after.get? (Naming.logicalName {} networkId) =
        retreatSite.switches.switches.get? (Naming.logicalName {} networkId) := by
  intro removal draw outcome after
  have refused : outcome.result =
      .error (.transactionFailed "neutron-n2" "injected transaction abort") := by decide
  have visited : removal.visited retreatSite.inventory = ["n1", "n2", "n3"] := by decide
  have once : removal.ListsOnce := by
    intro record same
    rw [← Removal.bgpvpn.inj same]
    decide
  obtain ⟨_, stops, _⟩ := removal_fails_closed {} draw [false, true] removal once retreatSite
  obtain ⟨done, stopped, later, split, converged, kept, _⟩ := stops _ refused
  exact ⟨refused, visited, done, stopped, later, visited ▸ split, converged, kept⟩

end EvpnMetadata.Reconcile
