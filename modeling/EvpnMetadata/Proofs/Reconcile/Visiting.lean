import EvpnMetadata.Proofs.Reconcile.Following
import EvpnMetadata.Reconcile.Sweep

/-! # The visit of a network

A sweep asks for the owner of a network and settles the network on it, unless there is no owner and
the network carries nothing.  A visit touches no other switch, and one that fails touches none.
-/

namespace EvpnMetadata.Reconcile

open Vpn EvpnMetadata.Topology Switch

variable (naming : Naming)

def settledVerdict : Option Bgpvpn → Bool → Verdict
  | some _, true => .applied
  | some _, false => .missing
  | none, _ => .cleared

/-- What the visit of one network can do to the switches, and which transactions it attempts. -/
inductive Visits (mayAbort : Prop) (resolved : Except Fault (Option Bgpvpn)) (tagged : Bool)
    (networkId : String) (before : Switches) :
    Except Fault Verdict → Switches → List Transaction → Prop where
  | unresolved {fault : Fault} (unknown : resolved = .error fault) :
    Visits mayAbort resolved tagged networkId before (.error fault) before []
  | untouched (free : resolved = .ok none) (clean : tagged = false) :
    Visits mayAbort resolved tagged networkId before (.ok .untouched) before []
  | settled {owner : Option Bgpvpn} {there : Bool} {after : Switches}
    {transactions : List Transaction} (known : resolved = .ok owner)
    (due : owner = none → tagged = true)
    (posted : Posts naming mayAbort ⟨networkId, owner⟩ before (.ok there) after transactions) :
    Visits mayAbort resolved tagged networkId before (.ok (settledVerdict owner there)) after
      transactions
  | failed {owner : Option Bgpvpn} {fault : Fault} {after : Switches}
    {transactions : List Transaction} (known : resolved = .ok owner)
    (due : owner = none → tagged = true)
    (posted : Posts naming mayAbort ⟨networkId, owner⟩ before (.error fault) after transactions) :
    Visits mayAbort resolved tagged networkId before (.error fault) after transactions

section Play

variable {deployment : Deployment σ} {memory : σ → Memory} {mayAbort : Prop}

/-- A network is settled unless it needs nothing and carries nothing. -/
theorem not_idle_iff {owner : Option Bgpvpn} {tagged : Bool} :
    ¬(owner = none ∧ tagged = false) ↔ (owner = none → tagged = true) := by
  cases tagged <;> simp

theorem sweepNetwork_eq (tagged : Bool) (networkId : String) :
    sweepNetwork naming tagged networkId = (do
      let owner ← effective networkId .nothing
      if owner = none ∧ tagged = false then pure .untouched
      else settledVerdict owner <$> Assignment.post naming ⟨networkId, owner⟩) := by
  rw [sweepNetwork]
  congr 1
  funext owner
  cases owner with
  | some bgpvpn =>
    have busy : ¬(some bgpvpn = none ∧ tagged = false) := fun idle => nomatch idle.1
    rw [if_neg busy, map_eq_pure_bind]
    refine congrArg (publish naming networkId bgpvpn >>= ·) (funext fun there => ?_)
    cases there <;> rfl
  | none =>
    cases tagged with
    | false => rfl
    | true =>
      have busy : ¬((none : Option Bgpvpn) = none ∧ true = false) := fun idle => nomatch idle.2
      rw [if_neg busy, map_eq_pure_bind]
      change (do discard (withdraw naming networkId); pure .cleared : Attempt Verdict) =
        (do let _ ← withdraw naming networkId; pure .cleared)
      rw [Functor.discard, map_const, Function.comp_apply, map_eq_pure_bind, bind_assoc]
      rfl

theorem quiet_visit_idle {networkId : String} {state : σ}
    (free : (effective networkId .nothing).answer (deployment.topology.frozen state) = .ok none) :
    ((sweepNetwork naming false networkId).play deployment state).quiet =
      { result := .ok .untouched, state } := by
  have asked := (isInquiry_effective networkId .nothing).quiet_play deployment state
  rw [free] at asked
  rw [sweepNetwork_eq, Attempt.quiet_bind_ok asked, Outcome.after_nil, if_pos ⟨rfl, rfl⟩]
  rfl

/-- Any other visit settles its network, and its verdict is about how that ends. -/
theorem quiet_visit_busy {networkId : String} {state : σ} {owner : Option Bgpvpn} {tagged : Bool}
    (known : (effective networkId .nothing).answer (deployment.topology.frozen state) = .ok owner)
    (due : owner = none → tagged = true) :
    let settled := (Assignment.post naming ⟨networkId, owner⟩).play deployment state
    ((sweepNetwork naming tagged networkId).play deployment state).quiet =
      { settled with result := settled.result.map (settledVerdict owner) }.quiet := by
  intro settled
  have asked := (isInquiry_effective networkId .nothing).quiet_play deployment state
  rw [known] at asked
  rw [sweepNetwork_eq, Attempt.quiet_bind_ok asked, Outcome.after_nil,
    if_neg (not_idle_iff.mpr due), Attempt.play_map]

theorem visits (h : deployment.InMemory memory mayAbort) (tagged : Bool) (networkId : String)
    (state : σ) :
    Visits naming mayAbort
      ((effective networkId .nothing).answer (deployment.topology.frozen state)) tagged networkId
      (memory state).switches
      ((sweepNetwork naming tagged networkId).play deployment state).result
      (memory ((sweepNetwork naming tagged networkId).play deployment state).state).switches
      ((sweepNetwork naming tagged networkId).play deployment state).transactions := by
  rw [← Outcome.quiet_result, ← Outcome.quiet_state, ← Outcome.quiet_transactions]
  cases resolved : (effective networkId .nothing).answer (deployment.topology.frozen state) with
  | error fault =>
    have asked := (isInquiry_effective networkId .nothing).quiet_play deployment state
    rw [resolved] at asked
    rw [sweepNetwork_eq, Attempt.quiet_bind_error asked]
    exact .unresolved rfl
  | ok owner =>
    by_cases idle : owner = none ∧ tagged = false
    · obtain ⟨rfl, rfl⟩ := idle
      rw [quiet_visit_idle naming resolved]
      exact .untouched rfl rfl
    · have due := not_idle_iff.mp idle
      have posted := posts naming h ⟨networkId, owner⟩ state
      rw [quiet_visit_busy naming resolved due, Outcome.quiet_result, Outcome.quiet_state,
        Outcome.quiet_transactions]
      cases result : ((Assignment.post naming ⟨networkId, owner⟩).play deployment state).result with
      | ok there =>
        rw [result] at posted
        exact .settled rfl due posted
      | error fault =>
        rw [result] at posted
        exact .failed rfl due posted

end Play

section Laws

variable {naming} {mayAbort : Prop} {networkId : String} {tagged : Bool} {before after : Switches}
  {result : Except Fault Verdict} {transactions : List Transaction}

theorem Visits.get?_ne {resolved : Except Fault (Option Bgpvpn)} {name : String}
    (h : Visits naming mayAbort resolved tagged networkId before result after transactions)
    (other : name ≠ naming.logicalName networkId) : after.get? name = before.get? name := by
  cases h with
  | unresolved | untouched => rfl
  | settled known due posted => rw [posted.of_ok.1, Assignment.get?_effect, if_neg other]
  | failed known due posted => rw [posted.of_error.1]

theorem Visits.of_error {resolved : Except Fault (Option Bgpvpn)} {fault : Fault}
    (h : Visits naming mayAbort resolved tagged networkId before result after transactions)
    (failed : result = .error fault) : after = before := by
  cases h with
  | unresolved | untouched => rfl
  | settled => cases failed
  | failed _ _ posted => exact posted.of_error.1

variable {owner : Option Bgpvpn}
  (h : Visits naming mayAbort (.ok owner) tagged networkId before result after transactions)

include h

theorem Visits.untouched_iff : result = .ok .untouched ↔ owner = none ∧ tagged = false := by
  cases h with
  | unresolved unknown => cases unknown
  | untouched free clean =>
    cases free
    simp [clean]
  | @settled _ there _ _ known due _ =>
    cases known
    refine iff_of_false ?_ (not_idle_iff.mpr due)
    cases owner <;> cases there <;> simp [settledVerdict]
  | failed known due _ =>
    cases known
    simpa using not_idle_iff.mpr due

theorem Visits.missing_iff :
    result = .ok .missing ↔
      owner ≠ none ∧ before.get? (naming.logicalName networkId) = none := by
  cases h with
  | unresolved unknown => cases unknown
  | untouched free clean =>
    cases free
    simp
  | settled known _ posted =>
    cases known
    cases posted with
    | absent noSwitch => cases owner <;> simp [settledVerdict, noSwitch]
    | written found _ => cases owner <;> simp [settledVerdict, found]
  | failed known _ posted =>
    cases posted with
    | refused found | aborted _ found => simp [found]

end Laws

end EvpnMetadata.Reconcile
