import EvpnMetadata.Proofs.Reconcile.Restoration

/-! # What is attempted, and how it fails

Every transaction that an event or a sweep attempts settles one assignment, whether it commits or
not.  Settling fails with a transaction, or on a BGPVPN without a VNI; every other fault of a
delivery comes from judging the event.
-/

namespace EvpnMetadata.Reconcile

open Vpn EvpnMetadata.Topology Switch Lifecycle

namespace Assignment

def IsSettledBy (naming : Naming) (assignment : Assignment) (transaction : Transaction) : Prop :=
  ∃ attributes, Bag.ofOwner assignment.owner = .ok attributes ∧
    transaction = assignment.transaction naming attributes

end Assignment

section Transactions

variable {naming : Naming} {mayAbort : Prop} {before after : Switches}
  {transactions : List Transaction} {transaction : Transaction}

theorem Posts.isSettledBy {assignment : Assignment} {result : Except Fault Bool}
    (h : Posts naming mayAbort assignment before result after transactions)
    (attempted : transaction ∈ transactions) : assignment.IsSettledBy naming transaction := by
  cases h with
  | absent | refused => cases attempted
  | @written _ attributes _ good | @aborted _ attributes _ _ _ good =>
    exact ⟨attributes, good, List.mem_singleton.mp attempted⟩

theorem Performs.exists_isSettledBy {assignments : List Assignment} {result : Except Fault Unit}
    (h : Performs naming mayAbort assignments before result after transactions)
    (attempted : transaction ∈ transactions) :
    ∃ assignment ∈ assignments, assignment.IsSettledBy naming transaction := by
  induction h with
  | nil => cases attempted
  | @cons assignment _ _ _ _ _ _ _ _ posted _ ih =>
    rcases List.mem_append.mp attempted with now | later
    · exact ⟨assignment, List.mem_cons_self, posted.isSettledBy now⟩
    · obtain ⟨later, mem, settles⟩ := ih later
      exact ⟨later, .tail _ mem, settles⟩
  | @stop assignment _ _ _ _ _ failed =>
    exact ⟨assignment, List.mem_cons_self, failed.isSettledBy attempted⟩

theorem Visits.exists_isSettledBy {resolved : Except Fault (Option Bgpvpn)} {tagged : Bool}
    {networkId : String} {result : Except Fault Verdict}
    (h : Visits naming mayAbort resolved tagged networkId before result after transactions)
    (attempted : transaction ∈ transactions) :
    ∃ owner, resolved = .ok owner ∧
      Assignment.IsSettledBy naming ⟨networkId, owner⟩ transaction := by
  cases h with
  | unresolved | untouched => cases attempted
  | settled known _ posted | failed known _ posted =>
    exact ⟨_, known, posted.isSettledBy attempted⟩

theorem Sweeps.exists_isSettledBy {resolved : String → Except Fault (Option Bgpvpn)}
    {tagged : String → Bool} {networks : List String}
    {results : List (String × Except Fault Verdict)}
    (h : Sweeps naming mayAbort resolved tagged networks before results after transactions)
    (attempted : transaction ∈ transactions) :
    ∃ networkId owner, resolved networkId = .ok owner ∧
      Assignment.IsSettledBy naming ⟨networkId, owner⟩ transaction := by
  induction h with
  | nil => cases attempted
  | cons visit _ ih =>
    rcases List.mem_append.mp attempted with now | later
    · exact ⟨_, visit.exists_isSettledBy now⟩
    · exact ih later

end Transactions

section Site

variable (naming : Naming) (draw : π → Bool × π) (plan : π) (site : Site)

/-- What delivering an event does at a site where transactions may be aborted. -/
theorem delivers_under_aborts (event : Event) :
    let outcome := (delivery naming event).play (Site.deployment.aborting draw) (plan, site)
    let agenda := site.inventory.agenda event
    ∃ result : Except Fault Unit, outcome.result = (do result; agenda.ending) ∧
      Performs naming True agenda.assignments site.switches.switches result
        outcome.state.2.switches.switches outcome.transactions :=
  delivery_settles naming (Deployment.site_reliable.aborting draw) rfl event

theorem exists_isSettledBy_of_delivery (event : Event) {transaction : Transaction}
    (attempted : transaction ∈ ((delivery naming event).play (Site.deployment.aborting draw)
      (plan, site)).transactions) :
    ∃ assignment ∈ (site.inventory.agenda event).assignments,
      assignment.IsSettledBy naming transaction := by
  obtain ⟨_, _, performed⟩ := delivers_under_aborts naming draw plan site event
  exact performed.exists_isSettledBy attempted

theorem exists_isSettledBy_of_sweep {transaction : Transaction}
    (attempted : transaction ∈ ((sweep naming).play (Site.deployment.aborting draw)
      (plan, site)).transactions) :
    ∃ networkId, Assignment.IsSettledBy naming
      ⟨networkId, site.inventory.owner networkId .nothing⟩ transaction := by
  obtain ⟨_, _, _, _, _, visits⟩ := sweep_sweeps naming site.inventory
    (Deployment.site_reliable.aborting draw) (plan, site) rfl
  obtain ⟨networkId, owner, resolved, settles⟩ := visits.exists_isSettledBy attempted
  rw [site.inventory.answer_effective] at resolved
  cases resolved
  exact ⟨networkId, settles⟩

end Site

/-- A fault of settling: a transaction failed, or a BGPVPN has no VNI. -/
def IsSettlingFault : Fault → Prop
  | .transactionFailed .. | .missingAttribute .. => True
  | _ => False

section Play

variable (naming : Naming) {deployment : Deployment σ} {memory : σ → Memory} {mayAbort : Prop}
  {fault : Fault}

theorem isSettlingFault_ofOwner {owner : Option Bgpvpn} (bad : Bag.ofOwner owner = .error fault) :
    IsSettlingFault fault := by
  cases owner with
  | none => cases bad
  | some bgpvpn =>
    rw [Bag.ofOwner, Bag.ofBgpvpn] at bad
    split at bad
    · cases bad
      trivial
    · cases bad

variable (h : deployment.InMemory memory mayAbort)
  (stored : ∀ state row changes fault,
    (deployment.store.transact state row changes).1 = .error fault → IsSettlingFault fault)

include h stored

theorem isSettlingFault_post (assignment : Assignment) (state : σ)
    (failed : ((assignment.post naming).play deployment state).result = .error fault) :
    IsSettlingFault fault := by
  rw [← Outcome.quiet_result] at failed
  cases found : (memory state).switches.get? (naming.logicalName assignment.networkId) with
  | none =>
    rw [quiet_post_absent naming h assignment found] at failed
    cases failed
  | some entry =>
    cases called : Bag.ofOwner assignment.owner with
    | error other =>
      rw [quiet_post_refused naming h assignment found called] at failed
      cases failed
      exact isSettlingFault_ofOwner called
    | ok attributes =>
      rw [quiet_post_found naming h assignment found called] at failed
      cases answered : (deployment.store.transact state
          (Memory.row (naming.logicalName assignment.networkId) entry)
          (replacement attributes)).1 with
      | ok done =>
        simp only [answered] at failed
        cases failed
      | error other =>
        simp only [answered] at failed
        cases failed
        exact stored _ _ _ _ answered

theorem isSettlingFault_settleAll (assignments : List Assignment) (state : σ)
    (failed : ((settleAll naming assignments).play deployment state).result = .error fault) :
    IsSettlingFault fault := by
  induction assignments generalizing state with
  | nil => cases failed
  | cons assignment rest ih =>
    rw [settleAll_cons, Attempt.play_bind, play_discard] at failed
    cases result : ((assignment.post naming).play deployment state).result with
    | ok there =>
      rw [result] at failed
      exact ih _ failed
    | error other =>
      rw [result] at failed
      cases failed
      exact isSettlingFault_post naming h stored assignment state result

end Play

/-- In memory, a transaction fails because its row is gone, or because it is aborted. -/
theorem isSettlingFault_transact (draw : π → Bool × π) (state : π × Site) (row : Row)
    (changes : List Change) (fault : Fault)
    (failed : ((Site.deployment.aborting draw).store.transact state row changes).1 =
      .error fault) : IsSettlingFault fault := by
  change (Backend.transact (Backend.aborting draw Site.deployment.store) state row changes).1 = _
    at failed
  simp only [Backend.aborting] at failed
  split at failed
  · cases failed
    trivial
  · change (state.2.switches.transact row changes).1 = .error fault at failed
    rw [Memory.transact] at failed
    split at failed
    · cases failed
      trivial
    · split at failed
      · cases failed
      · cases failed
        trivial

/-- A delivery that fails has failed to settle a network, or the event is refused. -/
theorem fault_of_delivery (naming : Naming) (draw : π → Bool × π) (plan : π) (site : Site)
    (event : Event) {fault : Fault}
    (failed : ((delivery naming event).play (Site.deployment.aborting draw) (plan, site)).result =
      .error fault) :
    IsSettlingFault fault ∨ (site.inventory.agenda event).ending = .error fault := by
  have inMemory := Deployment.site_reliable.aborting draw
  have still : (Site.deployment.aborting draw).topology.frozen (plan, site) =
      site.inventory.still := rfl
  have follows : Follows naming _ _ _ := .handle site.inventory.still event
  have played := (follows.play_eq inMemory still).1
  rw [site.inventory.plan_still] at played
  have delivered := congrArg Outcome.result
    (quiet_delivery naming (Site.deployment.aborting draw) event (plan, site))
  rw [Outcome.quiet_result, Outcome.quiet_result, failed, played] at delivered
  cases settled : ((settleAll naming (site.inventory.agenda event).assignments).play
      (Site.deployment.aborting draw) (plan, site)).result with
  | ok done =>
    rw [settled] at delivered
    exact .inr delivered.symm
  | error other =>
    rw [settled] at delivered
    cases delivered
    exact .inl
      (isSettlingFault_settleAll naming inMemory (isSettlingFault_transact draw) _ _ settled)

end EvpnMetadata.Reconcile
