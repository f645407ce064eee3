import EvpnMetadata.Proofs.Reconcile.Plans
import EvpnMetadata.Proofs.Reconcile.Reports

/-! # What a sweep restores

The networks of a sweep are gathered from the records, and their owners are resolved one by one.
Every network with an owner is among them, so a sweep puts every switch right that it does not fail
on, whatever the switches carried before.
-/

namespace EvpnMetadata.Topology.Inventory

open Vpn Reconcile

variable (inventory : Inventory)

def needed : List String :=
  (inventory.bgpvpns.map fun bgpvpn =>
    bgpvpn.networks ++ (bgpvpn.routers.map inventory.connected).flatten).flatten

theorem answer_neededNetworks (bgpvpn : Bgpvpn) :
    (neededNetworks bgpvpn).answer inventory.still =
      .ok (bgpvpn.networks ++ (bgpvpn.routers.map inventory.connected).flatten) := by
  rw [neededNetworks, Attempt.answer_bind,
    Attempt.answer_mapM _ inventory.answer_connectedNetworks]
  rfl

theorem answer_needs : needs.answer inventory.still = .ok inventory.needed := by
  rw [needs, Attempt.answer_bind, Attempt.answer_bgpvpns, inventory.lists.all, Attempt.ok_bind,
    Attempt.answer_bind, Attempt.answer_mapM _ inventory.answer_neededNetworks]
  rfl

variable {inventory}

theorem mem_needed {networkId : String} :
    networkId ∈ inventory.needed ↔ ∃ bgpvpn ∈ inventory.bgpvpns, networkId ∈ bgpvpn.networks ∨
      ∃ routerId ∈ bgpvpn.routers, networkId ∈ inventory.connected routerId := by
  simp [needed]

/-- Whoever owns a network is the reason that the network is needed. -/
theorem mem_needed_of_owner {networkId : String} {bgpvpn : Bgpvpn}
    (owned : inventory.owner networkId .nothing = some bgpvpn) : networkId ∈ inventory.needed := by
  rw [mem_needed]
  rcases Option.or_eq_some_iff.mp owned with direct | ⟨_, derived⟩
  · obtain ⟨listed, own, _⟩ := mem_direct.mp (List.mem_of_head? direct)
    exact ⟨bgpvpn, listed, .inl own⟩
  · obtain ⟨port, there, found⟩ := derived_eq_some derived
    obtain ⟨listed, isInterface, on, _⟩ := mem_interfacesOn.mp there
    obtain ⟨record, own, _⟩ := ofRouter_eq_some found
    exact ⟨bgpvpn, record, .inr ⟨port.deviceId, own,
      mem_connected.mpr ⟨port, listed, isInterface, rfl, on⟩⟩⟩

end EvpnMetadata.Topology.Inventory

namespace EvpnMetadata.Reconcile

open Vpn EvpnMetadata.Topology Switch

structure Restored (owner : Option Bgpvpn) (before after : Entry) : Prop where
  carries (bgpvpn : Bgpvpn) (owned : owner = some bgpvpn) :
    Bag.ofBgpvpn bgpvpn = .ok (Bag.evpnPart after.bag)
  cleared (free : owner = none) (tagged : Bag.isConfigured before.bag = true) :
    Bag.evpnPart after.bag = .empty
  kept (free : owner = none) (clean : Bag.isConfigured before.bag = false) : after = before

theorem Restored.settled {owner : Option Bgpvpn} {attributes : Bag} {entry : Entry}
    (good : Bag.ofOwner owner = .ok attributes)
    (due : owner = none → Bag.isConfigured entry.bag = true) :
    Restored owner entry (settledEntry owner entry) where
  carries bgpvpn owned := by
    subst owned
    rw [evpnPart_settledEntry good]
    exact good
  cleared free _ := by
    subst free
    cases good
    exact evpnPart_settledEntry rfl entry
  kept free clean := by
    rw [due free] at clean
    cases clean

theorem Restored.untouched {entry : Entry} (clean : Bag.isConfigured entry.bag = false) :
    Restored none entry entry where
  carries _ owned := nomatch owned
  cleared _ tagged := by
    rw [clean] at tagged
    cases tagged
  kept _ _ := rfl

section Visits

variable {naming : Naming} {mayAbort : Prop}

theorem Visits.restored {resolved : Except Fault (Option Bgpvpn)} {networkId : String}
    {before after : Switches} {verdict : Verdict} {transactions : List Transaction}
    {entry swept : Entry}
    (h : Visits naming mayAbort resolved (Bag.isConfigured entry.bag) networkId before (.ok verdict)
      after transactions)
    (found : before.get? (naming.logicalName networkId) = some entry)
    (left : after.get? (naming.logicalName networkId) = some swept) :
    ∃ owner, resolved = .ok owner ∧ Restored owner entry swept := by
  generalize ended : Except.ok verdict = result at h
  cases h with
  | unresolved | failed => cases ended
  | untouched free clean =>
    rw [found] at left
    cases left
    exact ⟨none, free, .untouched clean⟩
  | settled known due posted =>
    obtain ⟨rfl, unrefused⟩ := posted.of_ok
    rw [Assignment.get?_effect, if_pos rfl, found] at left
    cases left
    obtain ⟨attributes, good⟩ := Assignment.exists_attributes naming _ unrefused found
    exact ⟨_, known, .settled good due⟩

end Visits

section Sweeps

variable {naming : Naming} {mayAbort : Prop} {inventory : Inventory} {networks : List String}
  {before after : Switches} {results : List (String × Except Fault Verdict)}
  {transactions : List Transaction}

/-- The visits restore every switch that none of them fails on, visited or not. -/
theorem Sweeps.restored
    (h : Sweeps naming mayAbort
      (fun networkId => (effective networkId .nothing).answer inventory.still)
      (fun networkId => isTagged (before.get? (naming.logicalName networkId))) networks before
      results after transactions)
    (once : networks.Nodup)
    (visited : ∀ networkId, networkId ∈ networks ↔
      isTagged (before.get? (naming.logicalName networkId)) = true ∨ networkId ∈ inventory.needed)
    {networkId : String} {entry swept : Entry}
    (found : before.get? (naming.logicalName networkId) = some entry)
    (left : after.get? (naming.logicalName networkId) = some swept)
    (unfailed : networkId ∉ (failures results).map Prod.fst) :
    Restored (inventory.owner networkId .nothing) entry swept := by
  by_cases mem : networkId ∈ networks
  · obtain ⟨result, start, stop, attempts, listed, visit, started, stopped⟩ :=
      h.visit_of_mem once mem
    rw [inventory.answer_effective, found] at visit
    cases result with
    | error fault => exact absurd (mem_failures.mpr ⟨fault, listed⟩) unfailed
    | ok verdict =>
      obtain ⟨owner, known, restored⟩ :=
        visit.restored (started.trans found) (stopped.symm.trans left)
      cases known
      exact restored
  · rw [visited, not_or, found] at mem
    obtain ⟨clean, unneeded⟩ := mem
    have free : inventory.owner networkId .nothing = none := by
      cases owned : inventory.owner networkId .nothing with
      | none => rfl
      | some bgpvpn => exact absurd (Inventory.mem_needed_of_owner owned) unneeded
    have unvisited : ∀ other ∈ networks,
        naming.logicalName networkId ≠ naming.logicalName other := by
      intro other there same
      rw [naming.logicalName_inj] at same
      subst same
      rw [visited, found] at there
      exact there.elim clean unneeded
    rw [h.get?_of_notMem unvisited, found] at left
    cases left
    rw [free]
    exact .untouched (Bool.eq_false_iff.mpr clean)

/-- Two sweeps that resolve the same owners apply, and miss, the same networks. -/
theorem withVerdict_eq {resolved : String → Except Fault (Option Bgpvpn)}
    {tagged tagged' : String → Bool} {networks' : List String} {before' after' : Switches}
    {results' : List (String × Except Fault Verdict)} {transactions' : List Transaction}
    (h : Sweeps naming False resolved tagged networks before results after transactions)
    (h' : Sweeps naming False resolved tagged' networks' before' results' after' transactions')
    (ascending : networks.Pairwise (· < ·)) (ascending' : networks'.Pairwise (· < ·))
    (covered : ∀ networkId bgpvpn, resolved networkId = .ok (some bgpvpn) →
      networkId ∈ networks ∧ networkId ∈ networks')
    (same : ∀ name, before'.contains name = before.contains name) {verdict : Verdict}
    (either : verdict = .applied ∨ verdict = .missing) :
    withVerdict verdict results' = withVerdict verdict results := by
  have sorted : (withVerdict verdict results).Pairwise (· < ·) :=
    ascending.sublist (h.map_fst ▸ withVerdict_sublist verdict results)
  have sorted' : (withVerdict verdict results').Pairwise (· < ·) :=
    ascending'.sublist (h'.map_fst ▸ withVerdict_sublist verdict results')
  apply sorted'.eq_of_mem_iff sorted
  intro networkId
  rw [mem_withVerdict, mem_withVerdict, h.listed_iff ascending.nodup,
    h'.listed_iff ascending'.nodup, visitResult_congr (same _)]
  constructor
  · rintro ⟨_, reported⟩
    obtain ⟨bgpvpn, owned⟩ := exists_owner_of_visitResult reported either
    rw [owned, visitResult_some] at reported ⊢
    exact ⟨(covered networkId bgpvpn owned).1, reported⟩
  · rintro ⟨_, reported⟩
    obtain ⟨bgpvpn, owned⟩ := exists_owner_of_visitResult reported either
    rw [owned, visitResult_some] at reported ⊢
    exact ⟨(covered networkId bgpvpn owned).2, reported⟩

end Sweeps

/-- A sweep on an inventory visits every network that is tagged or needed. -/
theorem sweep_sweeps {deployment : Deployment σ} {memory : σ → Memory} {mayAbort : Prop}
    (naming : Naming) (inventory : Inventory) (h : deployment.InMemory memory mayAbort) (state : σ)
    (still : deployment.topology.frozen state = inventory.still) :
    let outcome := (sweep naming).play deployment state
    ∃ networks results, networks.Pairwise (· < ·) ∧
      (∀ networkId, networkId ∈ networks ↔
        isTagged ((memory state).switches.get? (naming.logicalName networkId)) = true ∨
          networkId ∈ inventory.needed) ∧
      outcome.result = .ok (reportOf results) ∧
      Sweeps naming mayAbort
        (fun networkId => (effective networkId .nothing).answer inventory.still)
        (fun networkId => isTagged ((memory state).switches.get? (naming.logicalName networkId)))
        networks (memory state).switches results (memory outcome.state).switches
        outcome.transactions := by
  have answers := inventory.answer_needs
  rcases sweep_cases naming h state with
    ⟨fault, answered, _⟩ | ⟨needed, networks, results, answered, ascending, visited, ended, visits⟩
  · rw [still, answers] at answered
    cases answered
  · rw [still] at answered visits
    cases answered.symm.trans answers
    refine ⟨networks, results, ascending, visited, ?_, visits⟩
    rw [ended, foldl_collect_empty]

theorem get?_sweep (naming : Naming) (site : Site) (name : String) :
    ((sweep naming).play Site.deployment site).state.switches.switches.get? name =
      (site.switches.switches.get? name).map
        (sweptRow naming site.inventory.still site.inventory.needed name) := by
  have swept : ((sweep naming).play Site.deployment site).state.switches.switches =
      sweptSwitches naming site.inventory.still site.switches.switches :=
    sweep_switches naming Deployment.site_reliable site
  rw [swept, sweptSwitches, site.inventory.answer_needs, FiniteMap.get?_map]

theorem sweptRow_logicalName (naming : Naming) (inventory : Inventory) (networkId : String) :
    sweptRow naming inventory.still inventory.needed (naming.logicalName networkId) =
      sweptEntry (.ok (inventory.owner networkId .nothing))
        (inventory.needed.contains networkId) := by
  funext entry
  rw [sweptRow, (naming.networkId?_eq_some_iff _ networkId).mpr rfl, ← inventory.answer_effective]

/-- After a sweep no network without an owner is tagged. -/
theorem isTagged_sweep_of_free (naming : Naming) (site : Site) {networkId : String}
    (free : site.inventory.owner networkId .nothing = none) :
    isTagged (((sweep naming).play Site.deployment site).state.switches.switches.get?
      (naming.logicalName networkId)) = false := by
  rw [get?_sweep, sweptRow_logicalName, free]
  cases site.switches.switches.get? (naming.logicalName networkId) with
  | none => rfl
  | some entry => exact isConfigured_sweptEntry_none _ entry

/-- A sweep that follows another one on the same topology changes nothing and repeats the report,
except that nothing is left to be cleared. -/
theorem sweep_again (naming : Naming) (site : Site) :
    let first := (sweep naming).play Site.deployment site
    let second := (sweep naming).play Site.deployment first.state
    ∃ report again, first.result = .ok report ∧ second.result = .ok again ∧
      second.state.switches.switches = first.state.switches.switches ∧
      again.applied = report.applied ∧ again.missing = report.missing ∧ again.cleared = [] := by
  intro first second
  have still : Site.deployment.topology.frozen first.state = site.inventory.still :=
    congrArg Inventory.still (Site.inventory_play _ site)
  have once := sweep_switches naming Deployment.site_reliable site
  have twice := sweep_switches naming Deployment.site_reliable first.state
  have partly := sweep_isPartlySwept naming Deployment.site_reliable site
  obtain ⟨networks, results, ascending, visited, ended, visits⟩ :=
    sweep_sweeps naming site.inventory Deployment.site_reliable site rfl
  obtain ⟨networks', results', ascending', visited', ended', visits'⟩ :=
    sweep_sweeps naming site.inventory Deployment.site_reliable first.state still
  have covered (networkId : String) (bgpvpn : Bgpvpn)
      (owned : (effective networkId .nothing).answer site.inventory.still = .ok (some bgpvpn)) :
      networkId ∈ networks ∧ networkId ∈ networks' := by
    rw [site.inventory.answer_effective] at owned
    have needed := Inventory.mem_needed_of_owner (Except.ok.inj owned)
    exact ⟨(visited networkId).mpr (.inr needed), (visited' networkId).mpr (.inr needed)⟩
  have same (name : String) : first.state.switches.switches.contains name =
      site.switches.switches.contains name := partly.keepsForeign.contains_eq name
  refine ⟨_, _, ended, ended', ?_, ?_, ?_, ?_⟩
  · rw [still] at twice
    exact twice.trans ((sweptSwitches_of_isPartlySwept naming partly).trans once.symm)
  · exact withVerdict_eq visits visits' ascending ascending' covered same (.inl rfl)
  · exact withVerdict_eq visits visits' ascending ascending' covered same (.inr rfl)
  · apply List.eq_nil_iff_forall_not_mem.mpr
    intro networkId listed
    obtain ⟨_, reported⟩ := (visits'.listed_iff ascending'.nodup).mp (mem_withVerdict.mp listed)
    obtain ⟨free, tagged⟩ := cleared_of_visitResult reported
    rw [site.inventory.answer_effective] at free
    have clean := isTagged_sweep_of_free naming site (Except.ok.inj free)
    exact Bool.false_ne_true (clean.symm.trans tagged)

/-- A sweep restores every switch that it does not fail on, leaves the other writers' keys and the
rows of others alone, and finds nothing left to do when it is run again. -/
theorem sweep_restores (naming : Naming) (draw : π → Bool × π) (plan : π) (site : Site) :
    let outcome := (sweep naming).play (Site.deployment.aborting draw) (plan, site)
    let before := site.switches.switches
    let after := outcome.state.2.switches.switches
    (∃ report, outcome.result = .ok report ∧
      ∀ name, after.contains name = before.contains name ∧
        ∀ entry swept, before.get? name = some entry → after.get? name = some swept →
          AgreeOutsideEvpn swept entry ∧ (naming.networkId? name = none → swept = entry) ∧
          ∀ networkId, name = naming.logicalName networkId →
            networkId ∉ report.failed.map Prod.fst →
              ∃ owner, ((effective networkId .nothing).play Site.deployment site).result =
                .ok owner ∧ Restored owner entry swept) ∧
    (let first := (sweep naming).play Site.deployment site
      let second := (sweep naming).play Site.deployment first.state
      ∃ report again, first.result = .ok report ∧ second.result = .ok again ∧
        second.state.switches.switches = first.state.switches.switches ∧
        again.applied = report.applied ∧ again.missing = report.missing ∧ again.cleared = []) := by
  intro outcome before after
  have inMemory := Deployment.site_reliable.aborting draw
  have partly := sweep_isPartlySwept naming inMemory (plan, site)
  obtain ⟨networks, results, ascending, visited, ended, visits⟩ :=
    sweep_sweeps naming site.inventory inMemory (plan, site) rfl
  refine ⟨⟨_, ended, fun name => ⟨partly.keepsForeign.contains_eq name,
      fun entry swept found left => ?_⟩⟩,
    sweep_again naming site⟩
  obtain ⟨agree, foreign⟩ := partly.keepsForeign.agree found left
  refine ⟨agree, foreign, fun networkId named unfailed => ?_⟩
  subst named
  exact ⟨_, effective_play site networkId .nothing,
    visits.restored ascending.nodup visited found left unfailed⟩

end EvpnMetadata.Reconcile
