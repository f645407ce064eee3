import EvpnMetadata.Proofs.Reconcile.Attempts
import EvpnMetadata.Proofs.Reconcile.Draws

/-! # Aborted visits of a sweep

Draws are made by transaction, while a sweep counts in networks.  A visit takes one transaction at
most, so the draws can be followed along the sweep: a network fails if its own transaction is
aborted, or if it is to carry a BGPVPN that cannot be published.
-/

namespace EvpnMetadata.Reconcile

open Vpn EvpnMetadata.Topology Switch

variable (naming : Naming) {deployment : Deployment σ} {memory : σ → Memory}

section Visit

variable (h : deployment.Reliable memory) (draw : π → Bool × π)

include h

/-- The visit of a network fails as the settling of its owner does. -/
theorem visit_fails_iff {networkId : String} {owner : Option Bgpvpn} (tagged : Bool)
    (state : π × σ)
    (known : (effective networkId .nothing).answer (deployment.topology.frozen state.2) =
      .ok owner) :
    let outcome := (sweepNetwork naming tagged networkId).play (deployment.aborting draw) state
    (∃ fault, outcome.result = .error fault) ↔
      (memory state.2).switches.contains (naming.logicalName networkId) = true ∧
        (aborted draw state.1 outcome.transactions ≠ [] ∨
          ∃ fault, Bag.ofOwner owner = .error fault) := by
  intro outcome
  have resolved : (effective networkId .nothing).answer
      ((deployment.aborting draw).topology.frozen state) = .ok owner := known
  by_cases idle : owner = none ∧ tagged = false
  · obtain ⟨rfl, rfl⟩ := idle
    rw [← Outcome.quiet_result, ← Outcome.quiet_transactions,
      show outcome.quiet = _ from quiet_visit_idle naming resolved]
    simp [Bag.ofOwner, Outcome.transactions, aborted]
  · have due := not_idle_iff.mp idle
    have settled := post_fails_iff naming h draw ⟨networkId, owner⟩ state
    rw [← Outcome.quiet_result, ← Outcome.quiet_transactions,
      show outcome.quiet = _ from quiet_visit_busy naming resolved due, Outcome.quiet_result,
      Outcome.quiet_transactions]
    refine Iff.trans ?_ settled
    cases ((Assignment.post naming ⟨networkId, owner⟩).play (deployment.aborting draw)
      state).result <;> simp [Except.map]

end Visit

section Names

variable {naming} {mayAbort : Prop} {before after : Switches} {transactions : List Transaction}
  {transaction : Transaction}

theorem Visits.name_eq {resolved : Except Fault (Option Bgpvpn)} {tagged : Bool}
    {networkId : String} {result : Except Fault Verdict}
    (h : Visits naming mayAbort resolved tagged networkId before result after transactions)
    (attempted : transaction ∈ transactions) :
    transaction.name = naming.logicalName networkId := by
  obtain ⟨owner, _, attributes, _, rfl⟩ := h.exists_isSettledBy attempted
  rfl

theorem Sweeps.exists_name_eq {resolved : String → Except Fault (Option Bgpvpn)}
    {tagged : String → Bool} {networks : List String}
    {results : List (String × Except Fault Verdict)}
    (h : Sweeps naming mayAbort resolved tagged networks before results after transactions)
    (attempted : transaction ∈ transactions) :
    ∃ networkId ∈ networks, transaction.name = naming.logicalName networkId := by
  induction h with
  | nil => cases attempted
  | cons visit _ ih =>
    rcases List.mem_append.mp attempted with now | later
    · exact ⟨_, List.mem_cons_self, visit.name_eq now⟩
    · obtain ⟨networkId, mem, named⟩ := ih later
      exact ⟨networkId, .tail _ mem, named⟩

end Names

def AbortedOn (draw : π → Bool × π) (plan : π) (transactions : List Transaction) (name : String) :
    Prop :=
  ∃ transaction ∈ aborted draw plan transactions, transaction.name = name

namespace AbortedOn

variable {draw : π → Bool × π} {plan : π} {name : String}

theorem append_iff {first others : List Transaction} :
    AbortedOn draw plan (first ++ others) name ↔ AbortedOn draw plan first name ∨
      AbortedOn draw (drawn draw first.length plan) others name := by
  simp only [AbortedOn, aborted_append, List.mem_append, or_and_right, exists_or]

theorem exists_mem {transactions : List Transaction}
    (lost : AbortedOn draw plan transactions name) :
    ∃ transaction ∈ transactions, transaction.name = name := by
  obtain ⟨transaction, mem, named⟩ := lost
  exact ⟨transaction, (aborted_sublist draw plan transactions).subset mem, named⟩

theorem iff_ne_nil {transactions : List Transaction}
    (same : ∀ transaction ∈ transactions, transaction.name = name) :
    AbortedOn draw plan transactions name ↔ aborted draw plan transactions ≠ [] := by
  constructor
  · rintro ⟨transaction, mem, _⟩
    exact List.ne_nil_of_mem mem
  · intro some
    obtain ⟨transaction, mem⟩ := List.exists_mem_of_ne_nil _ some
    exact ⟨transaction, mem, same _ ((aborted_sublist draw plan transactions).subset mem)⟩

end AbortedOn

variable {naming}

/-- In a sweep a network fails, where there is a switch, if a transaction on it is aborted or its
owner cannot be published. -/
theorem Tours.fails_iff (h : deployment.Reliable memory) (draw : π → Bool × π)
    {tagged : FiniteMap Unit} {networks : List String} {state after : π × σ}
    {results : List (String × Except Fault Verdict)} {transactions : List Transaction}
    (toured : Tours naming (deployment.aborting draw) tagged networks state results after
      transactions)
    {owner : String → Option Bgpvpn}
    (known : ∀ networkId, (effective networkId .nothing).answer
      (deployment.topology.frozen state.2) = .ok (owner networkId))
    (once : networks.Nodup) {networkId : String} {result : Except Fault Verdict}
    (listed : (networkId, result) ∈ results) :
    (∃ fault, result = .error fault) ↔
      (memory state.2).switches.contains (naming.logicalName networkId) = true ∧
        (AbortedOn draw state.1 transactions (naming.logicalName networkId) ∨
          ∃ fault, Bag.ofOwner (owner networkId) = .error fault) := by
  have inMemory := h.aborting draw
  induction toured with
  | nil => cases listed
  | @cons head rest state after visit results others visited toured ih =>
    obtain ⟨fresh, distinct⟩ := List.nodup_cons.mp once
    have plan : visit.state.1 = drawn draw visit.transactions.length state.1 :=
      visited ▸ deployment.plan_play_aborting draw _ state
    have still : deployment.topology.frozen visit.state.2 = deployment.topology.frozen state.2 :=
      visited ▸ inMemory.frozen_play _ state
    have done := visits naming inMemory (tagged.contains head) head state
    rw [← visited] at done
    have swept := toured.sweeps inMemory
    rw [AbortedOn.append_iff, ← plan]
    cases listed with
    | head =>
      have elsewhere : ¬AbortedOn draw visit.state.1 others (naming.logicalName networkId) := by
        intro lost
        obtain ⟨transaction, mem, named⟩ := lost.exists_mem
        obtain ⟨other, later, named'⟩ := swept.exists_name_eq mem
        exact fresh (naming.logicalName_inj.mp (named.symm.trans named') ▸ later)
      rw [or_iff_left elsewhere, AbortedOn.iff_ne_nil fun _ => done.name_eq, visited]
      exact visit_fails_iff naming h draw (tagged.contains networkId) state (known networkId)
    | tail _ later =>
      have other : naming.logicalName networkId ≠ naming.logicalName head := by
        intro same
        have mem : networkId ∈ rest := swept.map_fst ▸ List.mem_map_of_mem later
        exact fresh (naming.logicalName_inj.mp same ▸ mem)
      have before : ¬AbortedOn draw state.1 visit.transactions (naming.logicalName networkId) := by
        intro lost
        obtain ⟨transaction, mem, named⟩ := lost.exists_mem
        exact other (named.symm.trans (done.name_eq mem))
      have kept : (memory visit.state.2).switches.contains (naming.logicalName networkId) =
          (memory state.2).switches.contains (naming.logicalName networkId) :=
        congrArg Option.isSome (done.get?_ne other)
      rw [or_iff_right before, ← kept]
      exact ih (fun networkId => still ▸ known networkId) distinct later

end EvpnMetadata.Reconcile
