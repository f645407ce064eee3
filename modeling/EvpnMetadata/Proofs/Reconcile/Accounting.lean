import EvpnMetadata.Proofs.Reconcile.Aborts

/-! # The accounts of a sweep

A sweep always ends in a report, whatever transactions are aborted.  Every network that needs or
carries something is filed in exactly one of its lists: as missing if it lacks a switch, as failed
if its transaction was aborted or its BGPVPN cannot be published, and otherwise under what was done.
-/

namespace EvpnMetadata.Reconcile

open Vpn EvpnMetadata.Topology Switch

def Report.lists (report : Report) : List (List String) :=
  [report.applied, report.cleared, report.missing, report.failed.map Prod.fst]

/-- The networks that came to one verdict, or that came to none. -/
def filed (results : List (String × Except Fault Verdict)) (verdict : Option Verdict) :
    List String :=
  (results.filter fun visit => visit.2.toOption = verdict).map Prod.fst

section Filing

variable {results : List (String × Except Fault Verdict)} {networkId : String}

theorem mem_filed {verdict : Option Verdict} :
    networkId ∈ filed results verdict ↔
      ∃ result, (networkId, result) ∈ results ∧ result.toOption = verdict := by
  simp [filed]

theorem failures_fst (results : List (String × Except Fault Verdict)) :
    (failures results).map Prod.fst = filed results none := by
  induction results with
  | nil => rfl
  | cons visit rest ih =>
    obtain ⟨networkId, result⟩ := visit
    cases result with
    | ok verdict => simpa [failures, filed, Except.toOption] using ih
    | error fault => simpa [failures, filed, Except.toOption] using ih

theorem lists_reportOf (results : List (String × Except Fault Verdict)) :
    (reportOf results).lists =
      [some Verdict.applied, some .cleared, some .missing, none].map (filed results) := by
  rw [Report.lists, reportOf, failures_fst]
  rfl

theorem disjoint_filed (once : (results.map Prod.fst).Nodup) {first second : Option Verdict}
    (other : first ≠ second) : (filed results first).Disjoint (filed results second) := by
  intro networkId mem mem'
  obtain ⟨result, listed, rfl⟩ := mem_filed.mp mem
  obtain ⟨result', listed', rfl⟩ := mem_filed.mp mem'
  have same := List.inj_on_of_nodup_map once listed listed' rfl
  exact other (congrArg (fun visit => visit.2.toOption) same)

/-- Whoever is visited is filed unless nothing was to be done. -/
theorem mem_lists_iff :
    (∃ list ∈ (reportOf results).lists, networkId ∈ list) ↔
      ∃ result, (networkId, result) ∈ results ∧ result ≠ .ok .untouched := by
  simp only [lists_reportOf, List.mem_map, exists_exists_and_eq_and, mem_filed]
  constructor
  · rintro ⟨_, filing, result, listed, rfl⟩
    refine ⟨result, listed, ?_⟩
    rintro rfl
    simp [Except.toOption] at filing
  · rintro ⟨result, listed, touched⟩
    refine ⟨result.toOption, ?_, result, listed, rfl⟩
    cases result with
    | error fault => simp [Except.toOption]
    | ok verdict => cases verdict <;> simp_all [Except.toOption]

end Filing

theorem ofOwner_error_iff (owner : Option Bgpvpn) :
    (∃ fault, Bag.ofOwner owner = .error fault) ↔
      ∃ bgpvpn, owner = some bgpvpn ∧ bgpvpn.vni = none := by
  cases owner with
  | none => simp [Bag.ofOwner]
  | some bgpvpn =>
    have good := Bag.exists_ofBgpvpn_iff bgpvpn
    change (∃ fault, Bag.ofBgpvpn bgpvpn = .error fault) ↔ _
    cases built : Bag.ofBgpvpn bgpvpn with
    | ok attributes =>
      have numbered := good.mp ⟨attributes, built⟩
      simpa using numbered
    | error fault =>
      have unnumbered : bgpvpn.vni = none := by
        by_contra numbered
        obtain ⟨attributes, built'⟩ := good.mpr numbered
        rw [built] at built'
        cases built'
      simp [unnumbered]

theorem sweptRow_of_visited (naming : Naming) (inventory : Inventory) {networkId : String}
    {entry : Entry}
    (visited : isTagged (some entry) = true ∨ networkId ∈ inventory.needed) :
    sweptRow naming inventory.still inventory.needed (naming.logicalName networkId) entry =
      visitedEntry (.ok (inventory.owner networkId .nothing)) (isTagged (some entry)) entry := by
  have due : (Bag.isConfigured entry.bag || inventory.needed.contains networkId) = true := by
    rw [Bool.or_eq_true, List.contains_iff_mem]
    exact visited
  rw [sweptRow_logicalName, sweptEntry, if_pos due]
  rfl

section Accounts

variable {naming : Naming} {mayAbort : Prop} {resolved : String → Except Fault (Option Bgpvpn)}
  {tagged : String → Bool} {networks : List String} {before after : Switches}
  {results : List (String × Except Fault Verdict)} {transactions : List Transaction}
  (h : Sweeps naming mayAbort resolved tagged networks before results after transactions)

include h

theorem Sweeps.ascending_lists (ascending : networks.Pairwise (· < ·)) :
    ∀ list ∈ (reportOf results).lists, list.Pairwise (· < ·) := by
  rw [lists_reportOf, List.forall_mem_map]
  intro verdict _
  exact (h.map_fst ▸ ascending).sublist (List.filter_sublist.map Prod.fst)

variable (once : networks.Nodup)

include once

theorem Sweeps.disjoint_lists : (reportOf results).lists.Pairwise List.Disjoint := by
  have distinct : [some Verdict.applied, some .cleared, some .missing, none].Pairwise (· ≠ ·) := by
    decide
  rw [lists_reportOf, List.pairwise_map]
  exact distinct.imp (disjoint_filed (h.map_fst ▸ once))

theorem Sweeps.exists_result {networkId : String} (mem : networkId ∈ networks) :
    ∃ result, (networkId, result) ∈ results := by
  obtain ⟨result, _, _, _, listed, _⟩ := h.visit_of_mem once mem
  exact ⟨result, listed⟩

variable {networkId : String} {owner : Option Bgpvpn} (known : resolved networkId = .ok owner)

include known

/-- What a sweep comes to on one network, whatever it does on the others. -/
theorem Sweeps.account {result : Except Fault Verdict} (listed : (networkId, result) ∈ results) :
    (result = .ok .untouched ↔ owner = none ∧ tagged networkId = false) ∧
    (result = .ok .missing ↔
      owner ≠ none ∧ before.get? (naming.logicalName networkId) = none) ∧
    (∀ fault, result = .error fault →
      after.get? (naming.logicalName networkId) = before.get? (naming.logicalName networkId)) ∧
    ∀ verdict, result = .ok verdict →
      after.get? (naming.logicalName networkId) =
        (before.get? (naming.logicalName networkId)).map
          (visitedEntry (.ok owner) (tagged networkId)) := by
  obtain ⟨start, stop, _, visit, started, stopped⟩ := h.visit_of_listed once listed
  rw [known] at visit
  refine ⟨visit.untouched_iff, ?_, fun fault failed => ?_, fun verdict ended => ?_⟩
  · rw [visit.missing_iff, started]
  · rw [stopped, visit.of_error failed, started]
  · rw [stopped, visit.get?_of_ok ended, started]

variable (owned : owner ≠ none → networkId ∈ networks)

include owned

/-- Whoever needs or carries something is filed, and nobody else. -/
theorem Sweeps.mem_lists_iff (carrying : tagged networkId = true → networkId ∈ networks) :
    (∃ list ∈ (reportOf results).lists, networkId ∈ list) ↔
      owner ≠ none ∨ tagged networkId = true := by
  rw [Reconcile.mem_lists_iff]
  constructor
  · rintro ⟨result, listed, touched⟩
    by_contra neither
    rw [not_or, not_not, Bool.not_eq_true] at neither
    exact touched ((h.account once known listed).1.mpr neither)
  · intro either
    obtain ⟨result, listed⟩ := h.exists_result once (either.elim owned carrying)
    refine ⟨result, listed, fun untouched => ?_⟩
    obtain ⟨free, clean⟩ := (h.account once known listed).1.mp untouched
    rw [free, clean] at either
    simp at either

theorem Sweeps.mem_missing_iff :
    networkId ∈ (reportOf results).missing ↔
      owner ≠ none ∧ before.get? (naming.logicalName networkId) = none := by
  change networkId ∈ withVerdict .missing results ↔ _
  rw [mem_withVerdict]
  constructor
  · exact fun listed => (h.account once known listed).2.1.mp rfl
  · intro lacks
    obtain ⟨result, listed⟩ := h.exists_result once (owned lacks.1)
    exact (h.account once known listed).2.1.mpr lacks ▸ listed

end Accounts

/-- A network has failed if there is a switch and its transaction was aborted, or its owner cannot
be published. -/
theorem Tours.mem_failed_iff {naming : Naming} {deployment : Deployment σ} {memory : σ → Memory}
    (h : deployment.Reliable memory) (draw : π → Bool × π) {tagged : FiniteMap Unit}
    {networks : List String} {state after : π × σ}
    {results : List (String × Except Fault Verdict)} {transactions : List Transaction}
    (toured : Tours naming (deployment.aborting draw) tagged networks state results after
      transactions)
    (once : networks.Nodup) {owner : String → Option Bgpvpn}
    (known : ∀ networkId, (effective networkId .nothing).answer
      (deployment.topology.frozen state.2) = .ok (owner networkId)) {networkId : String}
    (owned : owner networkId ≠ none → networkId ∈ networks) :
    networkId ∈ (reportOf results).failed.map Prod.fst ↔
      (memory state.2).switches.get? (naming.logicalName networkId) ≠ none ∧
        (AbortedOn draw state.1 transactions (naming.logicalName networkId) ∨
          ∃ bgpvpn, owner networkId = some bgpvpn ∧ bgpvpn.vni = none) := by
  have swept := toured.sweeps (h.aborting draw)
  change networkId ∈ (failures results).map Prod.fst ↔ _
  rw [mem_failures, ← ofOwner_error_iff, ← Option.isSome_iff_ne_none]
  constructor
  · rintro ⟨fault, listed⟩
    exact (toured.fails_iff h draw known once listed).mp ⟨fault, rfl⟩
  · intro failing
    have mem : networkId ∈ networks := by
      rcases failing.2 with lost | bad
      · obtain ⟨transaction, attempted, named⟩ := lost.exists_mem
        obtain ⟨other, mem, named'⟩ := swept.exists_name_eq attempted
        exact naming.logicalName_inj.mp (named.symm.trans named') ▸ mem
      · obtain ⟨bgpvpn, some, _⟩ := (ofOwner_error_iff _).mp bad
        exact owned (some ▸ Option.some_ne_none bgpvpn)
    obtain ⟨result, listed⟩ := swept.exists_result once mem
    obtain ⟨fault, rfl⟩ := (toured.fails_iff h draw known once listed).mpr failing
    exact ⟨fault, listed⟩

/-- A sweep always ends in a report, whose lists are ascending and disjoint and hold the networks
that have an owner or carry a VNI.  A network with an owner is missing if it has no switch.  It
fails if there is a switch and its transaction is aborted or its owner has no VNI, and then the
switch stays as it is.  Whatever is applied or cleared is as a sweep without aborts leaves it. -/
theorem sweep_accounts (naming : Naming) (draw : π → Bool × π) (plan : π) (site : Site) :
    let outcome := (sweep naming).play (Site.deployment.aborting draw) (plan, site)
    let row (site : Site) (networkId : String) :=
      site.switches.switches.get? (naming.logicalName networkId)
    ∃ report, outcome.result = .ok report ∧
      (∀ list ∈ report.lists, list.Pairwise (· < ·)) ∧
      report.lists.Pairwise List.Disjoint ∧
      ∀ networkId, ∃ owner,
        ((effective networkId .nothing).play Site.deployment site).result = .ok owner ∧
        ((∃ list ∈ report.lists, networkId ∈ list) ↔
          owner ≠ none ∨ isTagged (row site networkId) = true) ∧
        (networkId ∈ report.missing ↔ owner ≠ none ∧ row site networkId = none) ∧
        (networkId ∈ report.failed.map Prod.fst ↔ row site networkId ≠ none ∧
          (AbortedOn draw plan outcome.transactions (naming.logicalName networkId) ∨
            ∃ bgpvpn, owner = some bgpvpn ∧ bgpvpn.vni = none)) ∧
        (networkId ∈ report.failed.map Prod.fst →
          row outcome.state.2 networkId = row site networkId) ∧
        (networkId ∈ report.applied ∨ networkId ∈ report.cleared →
          row outcome.state.2 networkId =
            row ((sweep naming).play Site.deployment site).state networkId) := by
  intro outcome row
  have inMemory := Deployment.site_reliable.aborting draw
  rcases sweep_tours naming inMemory (plan, site) with ⟨fault, unanswered, _⟩ |
    ⟨needed, tagged, networks, results, answered, same, ascending, visited, ended, toured⟩
  · cases unanswered.symm.trans site.inventory.answer_needs
  cases answered.symm.trans site.inventory.answer_needs
  have once : networks.Nodup := ascending.nodup
  have swept := toured.sweeps inMemory
  rw [foldl_collect_empty] at ended
  refine ⟨reportOf results, ended, swept.ascending_lists ascending, swept.disjoint_lists once,
    fun networkId => ⟨site.inventory.owner networkId .nothing,
      effective_play site networkId .nothing, ?_⟩⟩
  have known (networkId : String) := site.inventory.answer_effective networkId .nothing
  have owned (known : site.inventory.owner networkId .nothing ≠ none) : networkId ∈ networks := by
    obtain ⟨bgpvpn, some⟩ := Option.ne_none_iff_exists'.mp known
    exact (visited networkId).mpr (.inr (Inventory.mem_needed_of_owner some))
  refine ⟨?_, swept.mem_missing_iff once (known networkId) owned,
    toured.mem_failed_iff Deployment.site_reliable draw once known owned, ?_, ?_⟩
  · have carrying (carries : tagged.contains networkId = true) : networkId ∈ networks :=
      (visited networkId).mpr (.inl (same networkId ▸ carries))
    rw [swept.mem_lists_iff once (known networkId) owned carrying, same]
  · intro failed
    obtain ⟨fault, listed⟩ := mem_failures.mp failed
    exact (swept.account once (known networkId) listed).2.2.1 fault rfl
  · intro done
    obtain ⟨verdict, listed⟩ : ∃ verdict, (networkId, .ok verdict) ∈ results :=
      done.elim (fun applied => ⟨_, mem_withVerdict.mp applied⟩)
        fun cleared => ⟨_, mem_withVerdict.mp cleared⟩
    have mem : networkId ∈ networks := swept.map_fst ▸ List.mem_map_of_mem listed
    have left := (swept.account once (known networkId) listed).2.2.2 verdict rfl
    have settled := get?_sweep naming site (naming.logicalName networkId)
    refine left.trans (Eq.trans ?_ settled.symm)
    cases found : site.switches.switches.get? (naming.logicalName networkId) with
    | none => rfl
    | some entry =>
      rw [visited, found] at mem
      simp only [found, Option.map_some, same, sweptRow_of_visited naming site.inventory mem]

/-- The transaction of the first network is aborted. -/
example :
    let site : Site := {
      inventory := Inventory.putBgpvpn {}
        { id := "a", vpnType := "l3", vni := some 100, networks := ["n1", "n2", "n3"] }
      switches := (Memory.add {} "neutron-n1" "uuid-1").add "neutron-n2" "uuid-2" }
    let outcome := (sweep {}).play (Site.deployment.aborting AbortPlan.draw) ({ next := 1 }, site)
    outcome.result.map Report.lists = .ok [["n2"], [], ["n3"], ["n1"]] := by
  decide +kernel

end EvpnMetadata.Reconcile
