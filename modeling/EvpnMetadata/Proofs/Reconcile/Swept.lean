import EvpnMetadata.Proofs.Reconcile.Sweeping

/-! # What a sweep leaves

A sweep decides every switch on its own, from the topology and from whether the switch is tagged.
To decide a switch again changes nothing, and an aborted transaction leaves its switch undecided.
-/

namespace EvpnMetadata.Reconcile

open Vpn EvpnMetadata.Topology Switch

def visitedEntry (resolved : Except Fault (Option Bgpvpn)) (tagged : Bool) (entry : Entry) :
    Entry :=
  match resolved with
  | .error _ => entry
  | .ok none => if tagged then settledEntry none entry else entry
  | .ok (some bgpvpn) => settledEntry (some bgpvpn) entry

theorem visitedEntry_of_due {owner : Option Bgpvpn} {tagged : Bool}
    (due : owner = none → tagged = true) :
    visitedEntry (.ok owner) tagged = settledEntry owner := by
  funext entry
  cases owner with
  | none =>
    rw [due rfl]
    rfl
  | some bgpvpn => rfl

/-- A switch after a sweep, which visits the needed networks and those with a tagged switch. -/
def sweptEntry (resolved : Except Fault (Option Bgpvpn)) (needed : Bool) (entry : Entry) : Entry :=
  if Bag.isConfigured entry.bag || needed then
    visitedEntry resolved (Bag.isConfigured entry.bag) entry
  else entry

theorem isConfigured_settledEntry_none (entry : Entry) :
    Bag.isConfigured (settledEntry none entry).bag = false :=
  Bag.isConfigured_carrying Bag.isEvpn_empty entry.bag

theorem sweptEntry_idem (resolved : Except Fault (Option Bgpvpn)) (needed : Bool) (entry : Entry) :
    sweptEntry resolved needed (sweptEntry resolved needed entry) =
      sweptEntry resolved needed entry := by
  cases resolved with
  | error fault => simp only [sweptEntry, visitedEntry, ite_self]
  | ok owner =>
    cases owner with
    | none =>
      cases tagged : Bag.isConfigured entry.bag with
      | false => simp [sweptEntry, visitedEntry, tagged]
      | true => simp [sweptEntry, visitedEntry, tagged, isConfigured_settledEntry_none]
    | some bgpvpn =>
      rw [sweptEntry, sweptEntry, visitedEntry]
      split
      · rw [visitedEntry, settledEntry_idem, ite_self]
      · rfl

theorem isConfigured_sweptEntry_none (needed : Bool) (entry : Entry) :
    Bag.isConfigured (sweptEntry (.ok none) needed entry).bag = false := by
  cases tagged : Bag.isConfigured entry.bag with
  | false => simp [sweptEntry, visitedEntry, tagged]
  | true => simp [sweptEntry, visitedEntry, tagged, isConfigured_settledEntry_none]

theorem agreeOutsideEvpn_sweptEntry (resolved : Except Fault (Option Bgpvpn)) (needed : Bool)
    (entry : Entry) : AgreeOutsideEvpn (sweptEntry resolved needed entry) entry := by
  rw [sweptEntry]
  split
  · rw [visitedEntry.eq_def]
    split
    · exact .refl entry
    · split
      · exact .settledEntry none entry
      · exact .refl entry
    · exact .settledEntry _ entry
  · exact .refl entry

variable (naming : Naming)

/-- A sweep leaves rows alone that back no network. -/
def sweptRow (topology : Source Unit) (needed : List String) (name : String) (entry : Entry) :
    Entry :=
  match naming.networkId? name with
  | none => entry
  | some networkId =>
    sweptEntry ((effective networkId .nothing).answer topology) (needed.contains networkId) entry

theorem sweptRow_idem (topology : Source Unit) (needed : List String) (name : String)
    (entry : Entry) :
    sweptRow naming topology needed name (sweptRow naming topology needed name entry) =
      sweptRow naming topology needed name entry := by
  cases backed : naming.networkId? name with
  | none => simp only [sweptRow, backed]
  | some networkId => simp only [sweptRow, backed, sweptEntry_idem]

/-- The switches after a sweep that no transaction was aborted in. -/
def sweptSwitches (topology : Source Unit) (switches : Switches) : Switches :=
  match needs.answer topology with
  | .error _ => switches
  | .ok needed => switches.map (sweptRow naming topology needed)

/-- Each switch is as it was or as a sweep leaves it. -/
def IsPartlySwept (topology : Source Unit) (before after : Switches) : Prop :=
  ∀ name, after.get? name = (sweptSwitches naming topology before).get? name ∨
    after.get? name = before.get? name

/-- A sweep finishes what an interrupted one has left undone. -/
theorem sweptSwitches_of_isPartlySwept {topology : Source Unit} {before after : Switches}
    (partly : IsPartlySwept naming topology before after) :
    sweptSwitches naming topology after = sweptSwitches naming topology before := by
  apply FiniteMap.ext_get?
  intro name
  have either := partly name
  cases answered : needs.answer topology with
  | error fault =>
    simp only [sweptSwitches, answered] at either ⊢
    exact either.elim id id
  | ok needed =>
    simp only [sweptSwitches, answered, FiniteMap.get?_map] at either ⊢
    rcases either with decided | kept
    · rw [decided, Option.map_map]
      exact congrArg (Option.map · _) (funext (sweptRow_idem naming topology needed name))
    · rw [kept]

/-- What a sweep leaves of a row: the row itself if it backs no network, and the other writers' keys
in any case. -/
theorem exists_get?_sweptSwitches (topology : Source Unit) (before : Switches) (name : String) :
    ∃ change : Entry → Entry,
      (sweptSwitches naming topology before).get? name = (before.get? name).map change ∧
        (∀ entry, AgreeOutsideEvpn (change entry) entry) ∧
        (naming.networkId? name = none → ∀ entry, change entry = entry) := by
  rw [sweptSwitches]
  cases needs.answer topology with
  | error fault => exact ⟨id, Option.map_id.symm ▸ rfl, .refl, fun _ _ => rfl⟩
  | ok needed =>
    refine ⟨sweptRow naming topology needed name, FiniteMap.get?_map .., fun entry => ?_,
      fun foreign entry => ?_⟩
    · rw [sweptRow]
      split
      · exact .refl entry
      · exact agreeOutsideEvpn_sweptEntry _ _ entry
    · simp only [sweptRow, foreign]

/-- A sweep leaves the other writers' keys and the rows of others alone, finished or not. -/
theorem IsPartlySwept.keepsForeign {naming : Naming} {topology : Source Unit}
    {before after : Switches} (partly : IsPartlySwept naming topology before after) :
    KeepsForeign naming before after := by
  refine .of_rows fun name => ?_
  rcases partly name with swept | kept
  · rw [swept]
    exact exists_get?_sweptSwitches naming topology before name
  · exact ⟨id, Option.map_id.symm ▸ kept, .refl, fun _ _ => rfl⟩

section Play

variable {deployment : Deployment σ} {memory : σ → Memory} {mayAbort : Prop}

theorem Posts.get?_eq {naming : Naming} {assignment : Assignment} {before after : Switches}
    {result : Except Fault Bool} {transactions : List Transaction}
    (h : Posts naming mayAbort assignment before result after transactions) :
    after.get? (naming.logicalName assignment.networkId) =
        (before.get? (naming.logicalName assignment.networkId)).map
          (settledEntry assignment.owner) ∨
      mayAbort ∧ after.get? (naming.logicalName assignment.networkId) =
        before.get? (naming.logicalName assignment.networkId) := by
  cases h with
  | absent noSwitch => exact .inl (by rw [noSwitch]; rfl)
  | refused found bad => exact .inl (by rw [found, Option.map_some, settledEntry, bad])
  | written found good => exact .inl (by rw [Assignment.get?_effect, if_pos rfl])
  | aborted may found good => exact .inr ⟨may, rfl⟩

theorem Visits.get?_eq {naming : Naming} {resolved : Except Fault (Option Bgpvpn)} {tagged : Bool}
    {networkId : String} {before after : Switches} {result : Except Fault Verdict}
    {transactions : List Transaction}
    (h : Visits naming mayAbort resolved tagged networkId before result after transactions) :
    after.get? (naming.logicalName networkId) =
        (before.get? (naming.logicalName networkId)).map (visitedEntry resolved tagged) ∨
      mayAbort ∧ after.get? (naming.logicalName networkId) =
        before.get? (naming.logicalName networkId) := by
  cases h with
  | unresolved unknown =>
    subst unknown
    exact .inl Option.map_id'.symm
  | untouched free clean =>
    subst free clean
    exact .inl Option.map_id'.symm
  | settled known due posted | failed known due posted =>
    subst known
    rw [visitedEntry_of_due due]
    exact posted.get?_eq

/-- A visit that ends in a verdict leaves the switch as one without aborts does. -/
theorem Visits.get?_of_ok {naming : Naming} {owner : Option Bgpvpn} {tagged : Bool}
    {networkId : String} {before after : Switches} {result : Except Fault Verdict}
    {transactions : List Transaction}
    (h : Visits naming mayAbort (.ok owner) tagged networkId before result after transactions)
    {verdict : Verdict} (ended : result = .ok verdict) :
    after.get? (naming.logicalName networkId) =
      (before.get? (naming.logicalName networkId)).map (visitedEntry (.ok owner) tagged) := by
  cases h with
  | unresolved | failed => cases ended
  | untouched free clean =>
    cases free
    subst clean
    exact Option.map_id'.symm
  | settled known due posted =>
    cases known
    rw [posted.of_ok.1, Assignment.get?_effect, if_pos rfl, visitedEntry_of_due due]

/-- What a sweep does to a switch that is visited exactly if it is tagged or needed. -/
theorem Sweeps.get?_eq {naming : Naming} {resolved : String → Except Fault (Option Bgpvpn)}
    {networks needed : List String} {before after : Switches}
    {results : List (String × Except Fault Verdict)} {transactions : List Transaction}
    (h : Sweeps naming mayAbort resolved
      (fun networkId => isTagged (before.get? (naming.logicalName networkId))) networks before
      results after transactions)
    (once : networks.Nodup)
    (visited : ∀ networkId, networkId ∈ networks ↔
      isTagged (before.get? (naming.logicalName networkId)) = true ∨ networkId ∈ needed)
    (networkId : String) :
    after.get? (naming.logicalName networkId) =
        (before.get? (naming.logicalName networkId)).map
          (sweptEntry (resolved networkId) (needed.contains networkId)) ∨
      mayAbort ∧ after.get? (naming.logicalName networkId) =
        before.get? (naming.logicalName networkId) := by
  have decided (entry : Entry) (found : before.get? (naming.logicalName networkId) = some entry) :
      sweptEntry (resolved networkId) (needed.contains networkId) entry =
        if networkId ∈ networks then visitedEntry (resolved networkId) (isTagged (some entry)) entry
        else entry := by
    simp only [sweptEntry, visited networkId, found, isTagged, Option.any_some, Bool.or_eq_true,
      List.contains_iff_mem]
  by_cases mem : networkId ∈ networks
  · obtain ⟨result, start, stop, attempts, _, visit, started, stopped⟩ := h.visit_of_mem once mem
    rw [stopped]
    rcases visit.get?_eq with settled | ⟨may, kept⟩
    · refine .inl ?_
      rw [settled, started]
      cases found : before.get? (naming.logicalName networkId) with
      | none => rfl
      | some entry => rw [Option.map_some, Option.map_some, decided entry found, if_pos mem]
    · exact .inr ⟨may, kept.trans started⟩
  · refine .inl ?_
    have unvisited : ∀ other ∈ networks, naming.logicalName networkId ≠ naming.logicalName other :=
      fun other there same => mem (naming.logicalName_inj.mp same ▸ there)
    rw [h.get?_of_notMem unvisited]
    cases found : before.get? (naming.logicalName networkId) with
    | none => rfl
    | some entry => rw [Option.map_some, decided entry found, if_neg mem]

theorem sweep_get? (h : deployment.InMemory memory mayAbort) (state : σ) (name : String) :
    let after := (memory ((sweep naming).play deployment state).state).switches
    after.get? name =
        (sweptSwitches naming (deployment.topology.frozen state)
          (memory state).switches).get? name ∨
      mayAbort ∧ after.get? name = (memory state).switches.get? name := by
  rcases sweep_cases naming h state with
    ⟨fault, answered, failed⟩ | ⟨needed, networks, results, answered, ascending, visited, _, swept⟩
  · obtain ⟨_, kept, _⟩ := Outcome.of_quiet [] failed
    refine .inl ?_
    rw [sweptSwitches, answered, kept]
  · rw [sweptSwitches, answered, FiniteMap.get?_map]
    cases backed : naming.networkId? name with
    | none =>
      have unvisited : ∀ networkId ∈ networks, name ≠ naming.logicalName networkId := by
        intro networkId _ same
        rw [(naming.networkId?_eq_some_iff name networkId).mpr same] at backed
        cases backed
      refine .inl ?_
      have row : sweptRow naming (deployment.topology.frozen state) needed name = id := by
        funext entry
        simp only [sweptRow, backed, id]
      rw [swept.get?_of_notMem unvisited, row, Option.map_id, id]
    | some networkId =>
      obtain rfl := (naming.networkId?_eq_some_iff name networkId).mp backed
      have row : sweptRow naming (deployment.topology.frozen state) needed
          (naming.logicalName networkId) = sweptEntry
            ((effective networkId .nothing).answer (deployment.topology.frozen state))
            (needed.contains networkId) := by
        funext entry
        simp only [sweptRow, backed]
      rw [row]
      exact swept.get?_eq ascending.nodup visited networkId

theorem sweep_isPartlySwept (h : deployment.InMemory memory mayAbort) (state : σ) :
    IsPartlySwept naming (deployment.topology.frozen state) (memory state).switches
      (memory ((sweep naming).play deployment state).state).switches :=
  fun name => (sweep_get? naming h state name).imp_right And.right

theorem sweep_switches (h : deployment.Reliable memory) (state : σ) :
    (memory ((sweep naming).play deployment state).state).switches =
      sweptSwitches naming (deployment.topology.frozen state) (memory state).switches := by
  apply FiniteMap.ext_get?
  intro name
  rcases sweep_get? naming h state name with decided | ⟨aborted, _⟩
  · exact decided
  · exact aborted.elim

end Play

end EvpnMetadata.Reconcile
