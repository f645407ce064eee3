import EvpnMetadata.Proofs.Reconcile.Settlement

/-! # Draws

What decides over aborts is drawn once for each transaction that is attempted, in order.  So the
decisions on one part of a run follow those on the part before it.
-/

namespace EvpnMetadata

open EvpnMetadata.Topology Switch

namespace Switch

def decisions (draw : π → Bool × π) : Nat → π → List Bool
  | 0, _ => []
  | count + 1, plan => (draw plan).1 :: decisions draw count (draw plan).2

/-- The transactions that are aborted, of those that are attempted in turn. -/
def aborted (draw : π → Bool × π) : π → List Transaction → List Transaction
  | _, [] => []
  | plan, transaction :: rest =>
    if (draw plan).1 then transaction :: aborted draw (draw plan).2 rest
    else aborted draw (draw plan).2 rest

def drawn (draw : π → Bool × π) (count : Nat) (plan : π) : π :=
  (fun plan => (draw plan).2)^[count] plan

theorem aborted_append (draw : π → Bool × π) (plan : π) (first others : List Transaction) :
    aborted draw plan (first ++ others) =
      aborted draw plan first ++ aborted draw (drawn draw first.length plan) others := by
  induction first generalizing plan with
  | nil => rfl
  | cons transaction rest ih =>
    simp only [List.cons_append, aborted, ih]
    split <;> rfl

theorem aborted_sublist (draw : π → Bool × π) (plan : π) (transactions : List Transaction) :
    (aborted draw plan transactions).Sublist transactions := by
  induction transactions generalizing plan with
  | nil => exact List.Sublist.refl _
  | cons transaction rest ih =>
    rw [aborted]
    split
    · exact (ih _).cons_cons transaction
    · exact (ih _).cons transaction

theorem aborted_eq_nil_iff (draw : π → Bool × π) (plan : π) (transactions : List Transaction) :
    aborted draw plan transactions = [] ↔ true ∉ decisions draw transactions.length plan := by
  induction transactions generalizing plan with
  | nil => simp [aborted, decisions]
  | cons transaction rest ih =>
    cases lost : (draw plan).1 <;> simp [aborted, decisions, lost, ih]

end Switch

/-- A run draws once for each transaction that it attempts. -/
theorem Deployment.plan_play_aborting (deployment : Deployment σ) (draw : π → Bool × π)
    (p : Procedure α) (state : π × σ) :
    (p.play (deployment.aborting draw) state).state.1 =
      drawn draw (p.play (deployment.aborting draw) state).transactions.length state.1 := by
  induction p generalizing state with
  | done result => rfl
  | router id next ih | subnet id next ih | bgpvpn id next ih | ports filter next ih
  | bgpvpns filter next ih | lookup name next ih | rows next ih => exact ih _ state
  | transact row changes next ih =>
    have plan : ((deployment.aborting draw).store.transact state row changes).2.1 =
        (draw state.1).2 := by
      simp only [Deployment.aborting, Backend.aborting]
      split <;> rfl
    have continued := ih ((deployment.aborting draw).store.transact state row changes).1
      ((deployment.aborting draw).store.transact state row changes).2
    rw [plan] at continued
    exact continued
  | log line next ih => exact ih state

end EvpnMetadata

namespace EvpnMetadata.Reconcile

open Vpn EvpnMetadata.Topology Switch

section Post

variable {naming : Naming} {mayAbort : Prop} {assignment : Assignment} {before after : Switches}
  {result : Except Fault Bool} {transactions : List Transaction}

theorem Posts.contains_of_attempted
    (h : Posts naming mayAbort assignment before result after transactions)
    (attempted : transactions ≠ []) :
    before.contains (naming.logicalName assignment.networkId) = true := by
  cases h with
  | absent | refused => exact absurd rfl attempted
  | written found | aborted _ found => exact (FiniteMap.contains_iff _ _).mpr ⟨_, found⟩

end Post

/-- Posting an assignment fails, where there is a switch, if its transaction is aborted or its owner
cannot be published. -/
theorem post_fails_iff (naming : Naming) {deployment : Deployment σ} {memory : σ → Memory}
    (h : deployment.Reliable memory) (draw : π → Bool × π) (assignment : Assignment)
    (state : π × σ) :
    let outcome := (assignment.post naming).play (deployment.aborting draw) state
    (∃ fault, outcome.result = .error fault) ↔
      (memory state.2).switches.contains (naming.logicalName assignment.networkId) = true ∧
        (aborted draw state.1 outcome.transactions ≠ [] ∨
          ∃ fault, Bag.ofOwner assignment.owner = .error fault) := by
  intro outcome
  have inMemory := h.aborting draw
  rw [← Outcome.quiet_result, ← Outcome.quiet_transactions, FiniteMap.contains]
  cases found : (memory state.2).switches.get? (naming.logicalName assignment.networkId) with
  | none =>
    rw [show outcome.quiet = _ from quiet_post_absent naming inMemory assignment found]
    simp
  | some entry =>
    cases called : Bag.ofOwner assignment.owner with
    | error fault =>
      rw [show outcome.quiet = _ from quiet_post_refused naming inMemory assignment found called]
      simp
    | ok attributes =>
      rw [show outcome.quiet = _ from quiet_post_found naming inMemory assignment found called]
      simp only [Deployment.aborting, Backend.aborting]
      obtain ⟨made, _⟩ := (transact_found naming h assignment found called).resolve_right And.left
      cases lost : (draw state.1).1 with
      | true => simp [aborted, lost, Outcome.transactions, Except.map]
      | false => simp [aborted, lost, Outcome.transactions, Except.map, made]

end EvpnMetadata.Reconcile
