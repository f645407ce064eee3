import EvpnMetadata.Proofs.Reconcile.Visiting

/-! # The course of a sweep

A sweep visits its networks one after the other.  Each visit settles the switch of its own network
at most, and a fault only ends the visit that it happens in.
-/

namespace EvpnMetadata.Reconcile

open Vpn EvpnMetadata.Topology Switch

variable (naming : Naming)

def Report.collect (report : Report) (visit : String × Except Fault Verdict) : Report :=
  match visit.2 with
  | .ok verdict => report.record visit.1 verdict
  | .error fault => report.recordFault visit.1 fault

/-- Visits of networks in turn, each on the state that the one before has left. -/
inductive Tours (deployment : Deployment σ) (tagged : FiniteMap Unit) : List String → σ →
    List (String × Except Fault Verdict) → σ → List Transaction → Prop where
  | nil (state : σ) : Tours deployment tagged [] state [] state []
  | cons {networkId : String} {rest : List String} {state after : σ}
    {visit : Outcome σ (Except Fault Verdict)} {results : List (String × Except Fault Verdict)}
    {others : List Transaction}
    (visited : visit =
      (sweepNetwork naming (tagged.contains networkId) networkId).play deployment state)
    (toured : Tours deployment tagged rest visit.state results after others) :
    Tours deployment tagged (networkId :: rest) state ((networkId, visit.result) :: results) after
      (visit.transactions ++ others)

/-- What visiting networks in turn can do; a fault does not stop it. -/
inductive Sweeps (mayAbort : Prop) (resolved : String → Except Fault (Option Bgpvpn))
    (tagged : String → Bool) : List String → Switches →
    List (String × Except Fault Verdict) → Switches → List Transaction → Prop where
  | nil (switches : Switches) : Sweeps mayAbort resolved tagged [] switches [] switches []
  | cons {networkId : String} {rest : List String} {before middle after : Switches}
    {result : Except Fault Verdict} {results : List (String × Except Fault Verdict)}
    {first others : List Transaction}
    (visit : Visits naming mayAbort (resolved networkId) (tagged networkId) networkId before result
      middle first)
    (swept : Sweeps mayAbort resolved tagged rest middle results after others) :
    Sweeps mayAbort resolved tagged (networkId :: rest) before ((networkId, result) :: results)
      after (first ++ others)

section Play

variable {deployment : Deployment σ} {memory : σ → Memory} {mayAbort : Prop}

/-- A step of a sweep is the visit of a network, recorded in the report. -/
theorem quiet_sweepStep (deployment : Deployment σ) (tagged : FiniteMap Unit) (report : Report)
    (networkId : String) (state : σ) :
    let visit := (sweepNetwork naming (tagged.contains networkId) networkId).play deployment state
    ((sweepStep naming tagged report networkId).play deployment state).quiet =
      { result := report.collect (networkId, visit.result)
        state := visit.state
        marks := visit.transactions.map .attempted } := by
  intro visit
  refine Procedure.quiet_bind deployment (g := fun result => report.collect (networkId, result))
    (fun result after => ?_) (sweepNetwork naming (tagged.contains networkId) networkId).run state
  cases result with
  | ok verdict => rfl
  | error fault => rfl

theorem tours (deployment : Deployment σ) (tagged : FiniteMap Unit) (networks : List String)
    (report : Report) (state : σ) :
    let outcome := (networks.foldlM (sweepStep naming tagged) report).play deployment state
    ∃ results, outcome.result = results.foldl Report.collect report ∧
      Tours naming deployment tagged networks state results outcome.state
        outcome.transactions := by
  induction networks generalizing report state with
  | nil => exact ⟨[], rfl, .nil _⟩
  | cons networkId rest ih =>
    obtain ⟨visited, reached, attempts⟩ := Outcome.of_quiet _
      (quiet_sweepStep naming deployment tagged report networkId state)
    obtain ⟨results, reported, toured⟩ := ih
      ((sweepStep naming tagged report networkId).play deployment state).result
      ((sweepStep naming tagged report networkId).play deployment state).state
    have unfolded : Procedure.play deployment
        (sweepStep naming tagged report networkId >>= rest.foldlM (sweepStep naming tagged)) state =
          _ := Procedure.play_bind ..
    rw [List.foldlM_cons, unfolded]
    simp only [Outcome.after_state, Outcome.after_result, Outcome.transactions_after]
    rw [reached] at toured
    refine ⟨(networkId, ((sweepNetwork naming (tagged.contains networkId) networkId).play deployment
      state).result) :: results, ?_, ?_⟩
    · rw [reported, visited]
      rfl
    · change Tours _ _ _ _ _ _ _
        (((sweepStep naming tagged report networkId).play deployment state).transactions ++ _)
      rw [reached, attempts]
      exact .cons rfl toured

/-- Visits in turn do to the switches what a sweep can do. -/
theorem Tours.sweeps {naming : Naming} (h : deployment.InMemory memory mayAbort)
    {tagged : FiniteMap Unit} {networks : List String} {state after : σ}
    {results : List (String × Except Fault Verdict)} {transactions : List Transaction}
    (toured : Tours naming deployment tagged networks state results after transactions) :
    Sweeps naming mayAbort
      (fun networkId =>
        (effective networkId .nothing).answer (deployment.topology.frozen state))
      tagged.contains networks (memory state).switches results (memory after).switches
      transactions := by
  induction toured with
  | nil => exact .nil _
  | @cons networkId rest state after visit results others visited toured ih =>
    subst visited
    have still : deployment.topology.frozen ((sweepNetwork naming (tagged.contains networkId)
        networkId).play deployment state).state = deployment.topology.frozen state :=
      h.frozen_play _ state
    rw [still] at ih
    exact .cons (visits naming h (tagged.contains networkId) networkId state) ih

end Play

section Rows

variable {naming} {mayAbort : Prop} {resolved : String → Except Fault (Option Bgpvpn)}
  {tagged : String → Bool}

theorem Sweeps.get?_of_notMem {networks : List String} {before after : Switches}
    {results : List (String × Except Fault Verdict)} {transactions : List Transaction}
    (h : Sweeps naming mayAbort resolved tagged networks before results after transactions)
    {name : String} (unvisited : ∀ networkId ∈ networks, name ≠ naming.logicalName networkId) :
    after.get? name = before.get? name := by
  induction h with
  | nil switches => rfl
  | cons visit swept ih =>
    rw [ih fun networkId mem => unvisited networkId (.tail _ mem),
      visit.get?_ne (unvisited _ List.mem_cons_self)]

/-- A network that is visited once is visited on the switch that it had before the sweep, and keeps
what the visit leaves. -/
theorem Sweeps.visit_of_mem {networks : List String} {before after : Switches}
    {results : List (String × Except Fault Verdict)} {transactions : List Transaction}
    (h : Sweeps naming mayAbort resolved tagged networks before results after transactions)
    (once : networks.Nodup) {networkId : String} (visited : networkId ∈ networks) :
    ∃ result start stop attempts, (networkId, result) ∈ results ∧
      Visits naming mayAbort (resolved networkId) (tagged networkId) networkId start result stop
        attempts ∧
      start.get? (naming.logicalName networkId) = before.get? (naming.logicalName networkId) ∧
      after.get? (naming.logicalName networkId) = stop.get? (naming.logicalName networkId) := by
  induction h with
  | nil switches => cases visited
  | @cons head rest before middle after result results _ _ visit swept ih =>
    obtain ⟨fresh, others⟩ := List.nodup_cons.mp once
    cases visited with
    | head =>
      refine ⟨result, before, middle, _, List.mem_cons_self, visit, rfl, ?_⟩
      apply swept.get?_of_notMem
      intro other mem same
      exact fresh (naming.logicalName_inj.mp same ▸ mem)
    | tail _ later =>
      obtain ⟨later', start, stop, attempts, listed, visit', started, stopped⟩ := ih others later
      refine ⟨later', start, stop, attempts, .tail _ listed, visit', started.trans ?_, stopped⟩
      apply visit.get?_ne
      intro same
      exact fresh (naming.logicalName_inj.mp same ▸ later)

end Rows

/-- A switch that carries a VNI, whatever else it carries. -/
def isTagged (row : Option Entry) : Bool := row.any fun entry => Bag.isConfigured entry.bag

def needs : Attempt (List String) := do
  let bgpvpns ← Attempt.bgpvpns .all
  let needed ← bgpvpns.mapM neededNetworks
  return needed.flatten

theorem isInquiry_neededNetworks (bgpvpn : Bgpvpn) : (neededNetworks bgpvpn).IsInquiry :=
  (Attempt.IsInquiry.mapM isInquiry_connectedNetworks _).bind fun _ => Attempt.isInquiry_pure _

section Play

variable {deployment : Deployment σ} {memory : σ → Memory} {mayAbort : Prop}

theorem quiet_rows (h : deployment.InMemory memory mayAbort) (state : σ) :
    (Attempt.rows.play deployment state).quiet = { result := .ok (memory state).rows, state } := by
  change Outcome.quiet { result := deployment.store.rows state, state } = _
  rw [h.rows_eq]
  rfl

theorem quiet_configuredNetworks (h : deployment.InMemory memory mayAbort) (state : σ) :
    ∃ configured, ((configuredNetworks naming).play deployment state).quiet =
        { result := .ok configured, state } ∧
      ∀ networkId, networkId ∈ configured ↔
        isTagged ((memory state).switches.get? (naming.logicalName networkId)) = true := by
  refine ⟨_, (Attempt.quiet_bind_ok (quiet_rows h state) _).trans rfl, fun networkId => ?_⟩
  rw [isTagged, Option.any_eq_true, List.mem_filterMap]
  constructor
  · rintro ⟨row, mem, named⟩
    obtain ⟨listed, configured⟩ := List.mem_filter.mp mem
    obtain ⟨entry, stored, rfl⟩ := List.mem_map.mp listed
    have called := (naming.networkId?_eq_some_iff _ networkId).mp named
    change entry.1 = _ at called
    refine ⟨entry.2, ?_, configured⟩
    rw [← called, FiniteMap.get?_eq_some_iff]
    exact stored
  · rintro ⟨entry, found, configured⟩
    refine ⟨Memory.row (naming.logicalName networkId) entry, List.mem_filter.mpr ⟨?_, configured⟩,
      (naming.networkId?_eq_some_iff _ networkId).mpr rfl⟩
    exact List.mem_map.mpr ⟨_, (FiniteMap.get?_eq_some_iff _ _ _).mp found, rfl⟩

/-- A sweep fails before its first visit or visits every tagged or needed network, in name order. -/
theorem sweep_tours (h : deployment.InMemory memory mayAbort) (state : σ) :
    let outcome := (sweep naming).play deployment state
    (∃ fault, needs.answer (deployment.topology.frozen state) = .error fault ∧
      outcome.quiet = { result := .error fault, state }) ∨
    (∃ needed tagged networks results,
      needs.answer (deployment.topology.frozen state) = .ok needed ∧
      (∀ networkId, tagged.contains networkId =
        isTagged ((memory state).switches.get? (naming.logicalName networkId))) ∧
      networks.Pairwise (· < ·) ∧
      (∀ networkId, networkId ∈ networks ↔
        isTagged ((memory state).switches.get? (naming.logicalName networkId)) = true ∨
          networkId ∈ needed) ∧
      outcome.result = .ok (results.foldl Report.collect {}) ∧
      Tours naming deployment tagged networks state results outcome.state
        outcome.transactions) := by
  obtain ⟨configured, listed, isConfigured⟩ := quiet_configuredNetworks naming h state
  have askedAll := (Attempt.isInquiry_bgpvpns .all).quiet_play deployment state
  rw [needs, Attempt.answer_bind]
  intro outcome
  cases all : (Attempt.bgpvpns .all).answer (deployment.topology.frozen state) with
  | error fault =>
    rw [all] at askedAll
    exact .inl ⟨fault, rfl, Attempt.quiet_bind_error askedAll _⟩
  | ok bgpvpns =>
    rw [all] at askedAll
    have askedNeeds := (Attempt.IsInquiry.mapM isInquiry_neededNetworks bgpvpns).quiet_play
      deployment state
    have unfolded : outcome.quiet = _ := (Attempt.quiet_bind_ok askedAll _).trans
      (congrArg _ (Attempt.quiet_bind_ok listed _))
    rw [Outcome.after_nil, Outcome.after_nil] at unfolded
    rw [Attempt.ok_bind, Attempt.answer_bind]
    cases needed : (bgpvpns.mapM neededNetworks).answer (deployment.topology.frozen state) with
    | error fault =>
      rw [needed] at askedNeeds
      exact .inl ⟨fault, rfl, unfolded.trans (Attempt.quiet_bind_error askedNeeds _)⟩
    | ok lists =>
      rw [needed] at askedNeeds
      have visited := (unfolded.trans (Attempt.quiet_bind_ok askedNeeds _)).trans
        (Attempt.quiet_lift _ state)
      obtain ⟨result, after, attempts⟩ := Outcome.of_quiet _ visited
      obtain ⟨results, reported, toured⟩ := tours naming deployment (FiniteMap.ofKeys configured)
        (FiniteMap.ofKeys ((FiniteMap.ofKeys configured).keys ++ lists.flatten)).keys {} state
      refine .inr ⟨lists.flatten, FiniteMap.ofKeys configured,
        (FiniteMap.ofKeys ((FiniteMap.ofKeys configured).keys ++ lists.flatten)).keys, results, rfl,
        fun networkId => ?_, FiniteMap.keys_ascending _, fun networkId => ?_, ?_, ?_⟩
      · rw [FiniteMap.contains_ofKeys, Bool.eq_iff_iff, List.contains_iff_mem, isConfigured]
      · rw [FiniteMap.mem_keys_ofKeys, List.mem_append, FiniteMap.mem_keys_ofKeys, isConfigured]
      · rw [result, reported]
      · rw [after, attempts]
        exact toured

theorem sweep_cases (h : deployment.InMemory memory mayAbort) (state : σ) :
    let outcome := (sweep naming).play deployment state
    (∃ fault, needs.answer (deployment.topology.frozen state) = .error fault ∧
      outcome.quiet = { result := .error fault, state }) ∨
    (∃ needed networks results,
      needs.answer (deployment.topology.frozen state) = .ok needed ∧
      networks.Pairwise (· < ·) ∧
      (∀ networkId, networkId ∈ networks ↔
        isTagged ((memory state).switches.get? (naming.logicalName networkId)) = true ∨
          networkId ∈ needed) ∧
      outcome.result = .ok (results.foldl Report.collect {}) ∧
      Sweeps naming mayAbort
        (fun networkId =>
          (effective networkId .nothing).answer (deployment.topology.frozen state))
        (fun networkId => isTagged ((memory state).switches.get? (naming.logicalName networkId)))
        networks (memory state).switches results (memory outcome.state).switches
        outcome.transactions) := by
  intro outcome
  rcases sweep_tours naming h state with
    failed | ⟨needed, tagged, networks, results, answered, same, ascending, visited, ended, toured⟩
  · exact .inl failed
  · refine .inr ⟨needed, networks, results, answered, ascending, visited, ended, ?_⟩
    rw [← funext same]
    exact toured.sweeps h

end Play

end EvpnMetadata.Reconcile
