import EvpnMetadata.Proofs.Deployment
import EvpnMetadata.Proofs.Switch.Carrying
import EvpnMetadata.Reconcile.Hooks

/-! # Settling networks

To settle a network is to replace the EVPN part of its switch by what its owner calls for.  A list
of assignments is settled from left to right and stops at the first fault; what it has done by then
is absorbed when the list is settled again.
-/

namespace EvpnMetadata.Reconcile

open Vpn EvpnMetadata.Topology Switch

/-- A network, and the owner on which its switch is to be settled. -/
structure Assignment where
  networkId : String
  owner : Option Bgpvpn
  deriving DecidableEq, Repr

abbrev Switches := FiniteMap Entry

/-- A switch settled on an owner; an owner that cannot be published changes nothing. -/
def settledEntry (owner : Option Bgpvpn) (entry : Entry) : Entry :=
  match Bag.ofOwner owner with
  | .ok attributes => { entry with bag := Bag.carrying entry.bag attributes }
  | .error _ => entry

theorem settledEntry_eq {owner : Option Bgpvpn} {attributes : Bag}
    (good : Bag.ofOwner owner = .ok attributes) (entry : Entry) :
    settledEntry owner entry = { entry with bag := Bag.carrying entry.bag attributes } := by
  rw [settledEntry, good]

theorem settledEntry_uuid (owner : Option Bgpvpn) (entry : Entry) :
    (settledEntry owner entry).uuid = entry.uuid := by
  rw [settledEntry]
  split <;> rfl

/-- Only the last owner shows on a switch, if it can be published. -/
theorem settledEntry_settledEntry {owner : Option Bgpvpn} {attributes : Bag}
    (good : Bag.ofOwner owner = .ok attributes) (earlier : Option Bgpvpn) (entry : Entry) :
    settledEntry owner (settledEntry earlier entry) = settledEntry owner entry := by
  rw [settledEntry_eq good, settledEntry_eq good]
  cases known : Bag.ofOwner earlier with
  | error fault => rw [settledEntry, known]
  | ok other =>
    rw [settledEntry_eq known, Bag.carrying_carrying (Bag.isEvpn_ofOwner good)
      (Bag.isEvpn_ofOwner known)]

theorem settledEntry_idem (owner : Option Bgpvpn) (entry : Entry) :
    settledEntry owner (settledEntry owner entry) = settledEntry owner entry := by
  cases known : Bag.ofOwner owner with
  | ok attributes => exact settledEntry_settledEntry known owner entry
  | error fault => simp only [settledEntry, known]

/-- The same incarnation of a switch, with the same keys of the other writers. -/
structure AgreeOutsideEvpn (first second : Entry) : Prop where
  uuid_eq : first.uuid = second.uuid
  get?_eq (key : String) (foreign : key ∉ evpnKeys) : first.bag.get? key = second.bag.get? key

namespace AgreeOutsideEvpn

theorem refl (entry : Entry) : AgreeOutsideEvpn entry entry := ⟨rfl, fun _ _ => rfl⟩

theorem trans {first second third : Entry} (h : AgreeOutsideEvpn first second)
    (h' : AgreeOutsideEvpn second third) : AgreeOutsideEvpn first third :=
  ⟨h.uuid_eq.trans h'.uuid_eq, fun key foreign => (h.get?_eq key foreign).trans
    (h'.get?_eq key foreign)⟩

theorem settledEntry (owner : Option Bgpvpn) (entry : Entry) :
    AgreeOutsideEvpn (settledEntry owner entry) entry where
  uuid_eq := settledEntry_uuid owner entry
  get?_eq key foreign := by
    cases known : Bag.ofOwner owner with
    | ok attributes =>
      rw [settledEntry_eq known, Bag.get?_carrying (Bag.isEvpn_ofOwner known), if_neg foreign]
    | error fault => rw [Reconcile.settledEntry, known]

end AgreeOutsideEvpn

variable (naming : Naming)

/-- No row comes or goes, what the other writers keep on a row stays, and a row that backs no
network stays altogether. -/
structure KeepsForeign (before after : Switches) : Prop where
  contains_eq (name : String) : after.contains name = before.contains name
  agree {name : String} {entry later : Entry} (found : before.get? name = some entry)
    (left : after.get? name = some later) :
    AgreeOutsideEvpn later entry ∧ (naming.networkId? name = none → later = entry)

namespace KeepsForeign

variable {naming} {before middle after : Switches}

theorem of_rows (rows : ∀ name, ∃ change : Entry → Entry,
      after.get? name = (before.get? name).map change ∧
        (∀ entry, AgreeOutsideEvpn (change entry) entry) ∧
        (naming.networkId? name = none → ∀ entry, change entry = entry)) :
    KeepsForeign naming before after where
  contains_eq name := by
    obtain ⟨change, decided, _⟩ := rows name
    rw [FiniteMap.contains, FiniteMap.contains, decided, Option.isSome_map]
  agree {name entry later} found left := by
    obtain ⟨change, decided, agree, foreign⟩ := rows name
    rw [left, found] at decided
    cases decided
    exact ⟨agree entry, fun other => foreign other entry⟩

theorem refl (switches : Switches) : KeepsForeign naming switches switches :=
  .of_rows fun _ => ⟨id, Option.map_id.symm ▸ rfl, .refl, fun _ _ => rfl⟩

theorem trans (h : KeepsForeign naming before middle) (h' : KeepsForeign naming middle after) :
    KeepsForeign naming before after where
  contains_eq name := (h'.contains_eq name).trans (h.contains_eq name)
  agree {name entry later} found left := by
    have there := (FiniteMap.contains_iff _ _).mpr ⟨entry, found⟩
    rw [← h.contains_eq] at there
    obtain ⟨between, reached⟩ := (FiniteMap.contains_iff _ _).mp there
    obtain ⟨agree, foreign⟩ := h.agree found reached
    obtain ⟨agree', foreign'⟩ := h'.agree reached left
    exact ⟨agree'.trans agree, fun other => (foreign' other).trans (foreign other)⟩

end KeepsForeign

namespace Assignment

def effect (assignment : Assignment) (switches : Switches) : Switches :=
  switches.modify (naming.logicalName assignment.networkId) (settledEntry assignment.owner)

/-- Why an assignment cannot be settled: the switch is there, but the owner has no VNI. -/
def refusal? (assignment : Assignment) (switches : Switches) : Option Fault :=
  if switches.contains (naming.logicalName assignment.networkId) then
    match Bag.ofOwner assignment.owner with
    | .ok _ => none
    | .error fault => some fault
  else none

def transaction (assignment : Assignment) (attributes : Bag) : Transaction where
  name := naming.logicalName assignment.networkId
  changes := replacement attributes

def post (assignment : Assignment) : Attempt Bool :=
  match assignment.owner with
  | some bgpvpn => publish naming assignment.networkId bgpvpn
  | none => withdraw naming assignment.networkId

theorem settle_eq_post (assignment : Assignment) :
    settle naming assignment.networkId assignment.owner =
      (do discard (assignment.post naming) : Attempt Unit) := by
  obtain ⟨networkId, owner⟩ := assignment
  cases owner <;> rfl

end Assignment

/-- What settling one assignment can do to the switches, and which transactions it attempts. -/
inductive Posts (mayAbort : Prop) (assignment : Assignment) (before : Switches) :
    Except Fault Bool → Switches → List Transaction → Prop where
  | absent (noSwitch : before.get? (naming.logicalName assignment.networkId) = none) :
    Posts mayAbort assignment before (.ok false) before []
  | refused {entry : Entry} {fault : Fault}
    (found : before.get? (naming.logicalName assignment.networkId) = some entry)
    (bad : Bag.ofOwner assignment.owner = .error fault) :
    Posts mayAbort assignment before (.error fault) before []
  | written {entry : Entry} {attributes : Bag}
    (found : before.get? (naming.logicalName assignment.networkId) = some entry)
    (good : Bag.ofOwner assignment.owner = .ok attributes) :
    Posts mayAbort assignment before (.ok true) (assignment.effect naming before)
      [assignment.transaction naming attributes]
  | aborted {entry : Entry} {attributes : Bag} {fault : Fault} (may : mayAbort)
    (found : before.get? (naming.logicalName assignment.networkId) = some entry)
    (good : Bag.ofOwner assignment.owner = .ok attributes) :
    Posts mayAbort assignment before (.error fault) before
      [assignment.transaction naming attributes]

section Play

variable {deployment : Deployment σ} {memory : σ → Memory} {mayAbort : Prop}

theorem quiet_commit (deployment : Deployment σ) (state : σ) (row : Row) (changes : List Change) :
    ((commit row changes).play deployment state).quiet =
      { result := (deployment.store.transact state row changes).1
        state := (deployment.store.transact state row changes).2
        marks := [.attempted ⟨row.name, changes⟩] } := by
  change (Outcome.addMark (Procedure.play deployment
    (Procedure.bind (.done (deployment.store.transact state row changes).1) _)
    (deployment.store.transact state row changes).2) _).quiet = _
  generalize deployment.store.transact state row changes = answered
  obtain ⟨result, after⟩ := answered
  cases result with
  | ok result => rfl
  | error fault => rfl

/-- Replacing what a row carries succeeds if its transaction does. -/
theorem quiet_replaced (deployment : Deployment σ) (state : σ) (row : Row) (attributes : Bag) :
    let answered := deployment.store.transact state row (replacement attributes)
    ((do
      replace row attributes
      return true : Attempt Bool).play deployment state).quiet =
        { result := answered.1.map fun _ => true
          state := answered.2
          marks := [.attempted ⟨row.name, replacement attributes⟩] } := by
  intro answered
  have committed := quiet_commit deployment state row (replacement attributes)
  change _ = { result := answered.1, state := answered.2, marks := _ : Outcome σ _ } at committed
  cases result : answered.1 with
  | ok made =>
    rw [result] at committed
    exact (Attempt.quiet_bind_ok committed _).trans rfl
  | error fault =>
    rw [result] at committed
    exact (Attempt.quiet_bind_error committed _).trans rfl

theorem quiet_lookup (h : deployment.InMemory memory mayAbort) (name : String) (state : σ) :
    ((Attempt.lookup name).play deployment state).quiet =
      { result := .ok ((memory state).lookup name), state } := by
  change Outcome.quiet { result := deployment.store.lookup state name, state } = _
  rw [h.lookup_eq]
  rfl

/-- A row that was just read is transacted on, unless the transaction is aborted. -/
theorem transact_found (h : deployment.InMemory memory mayAbort) (assignment : Assignment)
    {state : σ} {entry : Entry} {attributes : Bag}
    (found : (memory state).switches.get? (naming.logicalName assignment.networkId) = some entry)
    (good : Bag.ofOwner assignment.owner = .ok attributes) :
    let answered := deployment.store.transact state
      (Memory.row (naming.logicalName assignment.networkId) entry) (replacement attributes)
    (answered.1 = .ok () ∧
      (memory answered.2).switches = assignment.effect naming (memory state).switches) ∨
    (mayAbort ∧ (∃ fault, answered.1 = .error fault) ∧
      (memory answered.2).switches = (memory state).switches) := by
  have made : (memory state).transact
      (Memory.row (naming.logicalName assignment.networkId) entry) (replacement attributes) =
      (.ok (), { memory state with
        switches := (memory state).switches.insert (naming.logicalName assignment.networkId)
          (settledEntry assignment.owner entry)
        committed := (memory state).committed + 1 }) := by
    simp only [Memory.transact, Memory.row, found, if_true, settledEntry_eq good]
    rfl
  rcases h.transact_cases state _ (replacement attributes) with
    ⟨result, after⟩ | ⟨may, failed, kept⟩
  · rw [made] at result after
    exact .inl ⟨result, after ▸ FiniteMap.insert_eq_modify (settledEntry assignment.owner) found⟩
  · exact .inr ⟨may, failed, congrArg Memory.switches kept⟩

theorem quiet_post_absent (h : deployment.InMemory memory mayAbort) (assignment : Assignment)
    {state : σ}
    (noSwitch : (memory state).switches.get? (naming.logicalName assignment.networkId) = none) :
    ((assignment.post naming).play deployment state).quiet = { result := .ok false, state } := by
  have looked := quiet_lookup h (naming.logicalName assignment.networkId) state
  rw [Memory.lookup, noSwitch] at looked
  obtain ⟨networkId, owner⟩ := assignment
  cases owner with
  | none => exact (Attempt.quiet_bind_ok looked _).trans rfl
  | some bgpvpn => exact (Attempt.quiet_bind_ok looked _).trans rfl

theorem quiet_post_refused (h : deployment.InMemory memory mayAbort) (assignment : Assignment)
    {state : σ} {entry : Entry} {fault : Fault}
    (found : (memory state).switches.get? (naming.logicalName assignment.networkId) = some entry)
    (bad : Bag.ofOwner assignment.owner = .error fault) :
    ((assignment.post naming).play deployment state).quiet = { result := .error fault, state } := by
  have looked := quiet_lookup h (naming.logicalName assignment.networkId) state
  rw [Memory.lookup, found] at looked
  obtain ⟨networkId, owner⟩ := assignment
  cases owner with
  | none => cases bad
  | some bgpvpn =>
    change Bag.ofBgpvpn bgpvpn = _ at bad
    apply (Attempt.quiet_bind_ok looked _).trans
    simp only [Option.map_some, bad]
    rfl

theorem quiet_post_found (h : deployment.InMemory memory mayAbort) (assignment : Assignment)
    {state : σ} {entry : Entry} {attributes : Bag}
    (found : (memory state).switches.get? (naming.logicalName assignment.networkId) = some entry)
    (good : Bag.ofOwner assignment.owner = .ok attributes) :
    let answered := deployment.store.transact state
      (Memory.row (naming.logicalName assignment.networkId) entry) (replacement attributes)
    ((assignment.post naming).play deployment state).quiet =
      { result := answered.1.map fun _ => true
        state := answered.2
        marks := [.attempted (assignment.transaction naming attributes)] } := by
  have looked := quiet_lookup h (naming.logicalName assignment.networkId) state
  rw [Memory.lookup, found] at looked
  have continued := quiet_replaced deployment state
    (Memory.row (naming.logicalName assignment.networkId) entry) attributes
  obtain ⟨networkId, owner⟩ := assignment
  cases owner with
  | none =>
    cases good
    exact (Attempt.quiet_bind_ok looked _).trans continued
  | some bgpvpn =>
    change Bag.ofBgpvpn bgpvpn = _ at good
    apply (Attempt.quiet_bind_ok looked _).trans
    simp only [Option.map_some, good]
    exact continued

theorem posts (h : deployment.InMemory memory mayAbort) (assignment : Assignment) (state : σ) :
    Posts naming mayAbort assignment (memory state).switches
      ((assignment.post naming).play deployment state).result
      (memory ((assignment.post naming).play deployment state).state).switches
      ((assignment.post naming).play deployment state).transactions := by
  rw [← Outcome.quiet_result, ← Outcome.quiet_state, ← Outcome.quiet_transactions]
  cases found : (memory state).switches.get? (naming.logicalName assignment.networkId) with
  | none =>
    rw [quiet_post_absent naming h assignment found]
    exact .absent found
  | some entry =>
    cases called : Bag.ofOwner assignment.owner with
    | error fault =>
      rw [quiet_post_refused naming h assignment found called]
      exact .refused found called
    | ok attributes =>
      rw [quiet_post_found naming h assignment found called]
      rcases transact_found naming h assignment found called with
        ⟨made, after⟩ | ⟨may, ⟨fault, failed⟩, kept⟩
      · simp only [made, after]
        exact .written found called
      · simp only [failed, kept]
        exact .aborted may found called

end Play

end EvpnMetadata.Reconcile
