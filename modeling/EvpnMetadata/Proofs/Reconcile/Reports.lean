import EvpnMetadata.Proofs.Reconcile.Swept

/-! # What a report says

A report lists the networks of a sweep by what became of them.  Without aborts the result of a visit
is decided by the owner of the network, by whether it was tagged and by whether it has a switch.
-/

namespace EvpnMetadata.Reconcile

open Vpn EvpnMetadata.Topology Switch

def withVerdict (verdict : Verdict) (results : List (String × Except Fault Verdict)) :
    List String :=
  (results.filter fun visit => visit.2.toOption = some verdict).map Prod.fst

def failures (results : List (String × Except Fault Verdict)) : List (String × String) :=
  results.filterMap fun visit =>
    match visit.2 with
    | .ok _ => none
    | .error fault => some (visit.1, fault.message)

theorem foldl_collect (results : List (String × Except Fault Verdict)) (report : Report) :
    results.foldl Report.collect report = {
      applied := report.applied ++ withVerdict .applied results
      cleared := report.cleared ++ withVerdict .cleared results
      missing := report.missing ++ withVerdict .missing results
      failed := report.failed ++ failures results } := by
  induction results generalizing report with
  | nil => simp [withVerdict, failures]
  | cons visit rest ih =>
    obtain ⟨networkId, result⟩ := visit
    rw [List.foldl_cons, ih]
    cases result with
    | ok verdict =>
      cases verdict <;>
        simp [Report.collect, Report.record, withVerdict, failures, Except.toOption]
    | error fault =>
      simp [Report.collect, Report.recordFault, withVerdict, failures, Except.toOption]

def reportOf (results : List (String × Except Fault Verdict)) : Report where
  applied := withVerdict .applied results
  cleared := withVerdict .cleared results
  missing := withVerdict .missing results
  failed := failures results

theorem foldl_collect_empty (results : List (String × Except Fault Verdict)) :
    results.foldl Report.collect {} = reportOf results :=
  foldl_collect results {}

theorem mem_withVerdict {verdict : Verdict} {results : List (String × Except Fault Verdict)}
    {networkId : String} :
    networkId ∈ withVerdict verdict results ↔ (networkId, .ok verdict) ∈ results := by
  simp only [withVerdict, List.mem_map, List.mem_filter, decide_eq_true_eq]
  constructor
  · rintro ⟨⟨_, result⟩, ⟨mem, same⟩, rfl⟩
    cases result with
    | ok other =>
      cases same
      exact mem
    | error fault => cases same
  · intro mem
    exact ⟨_, ⟨mem, rfl⟩, rfl⟩

theorem mem_failures_iff {results : List (String × Except Fault Verdict)}
    {networkId message : String} :
    (networkId, message) ∈ failures results ↔
      ∃ fault, (networkId, .error fault) ∈ results ∧ fault.message = message := by
  simp only [failures, List.mem_filterMap]
  constructor
  · rintro ⟨⟨_, result⟩, mem, same⟩
    cases result with
    | ok verdict => cases same
    | error fault =>
      cases same
      exact ⟨fault, mem, rfl⟩
  · rintro ⟨fault, mem, rfl⟩
    exact ⟨_, mem, rfl⟩

theorem mem_failures {results : List (String × Except Fault Verdict)} {networkId : String} :
    networkId ∈ (failures results).map Prod.fst ↔ ∃ fault, (networkId, .error fault) ∈ results := by
  rw [List.mem_map]
  constructor
  · rintro ⟨⟨_, message⟩, mem, rfl⟩
    obtain ⟨fault, listed, -⟩ := mem_failures_iff.mp mem
    exact ⟨fault, listed⟩
  · rintro ⟨fault, listed⟩
    exact ⟨_, mem_failures_iff.mpr ⟨fault, listed, rfl⟩, rfl⟩

theorem withVerdict_sublist (verdict : Verdict)
    (results : List (String × Except Fault Verdict)) :
    (withVerdict verdict results).Sublist (results.map Prod.fst) :=
  List.filter_sublist.map Prod.fst

/-- The result of a visit that no transaction is aborted in. -/
def visitResult (naming : Naming) (resolved : Except Fault (Option Bgpvpn)) (tagged : Bool)
    (networkId : String) (switches : Switches) : Except Fault Verdict :=
  match resolved with
  | .error fault => .error fault
  | .ok owner =>
    if owner = none ∧ tagged = false then .ok .untouched
    else
      match Assignment.refusal? naming ⟨networkId, owner⟩ switches with
      | some fault => .error fault
      | none => .ok (settledVerdict owner (switches.contains (naming.logicalName networkId)))

section Visits

variable {naming : Naming} {networkId : String} {before after : Switches}
  {transactions : List Transaction}

theorem Posts.there_eq {mayAbort : Prop} {assignment : Assignment} {there : Bool}
    (h : Posts naming mayAbort assignment before (.ok there) after transactions) :
    there = before.contains (naming.logicalName assignment.networkId) := by
  cases h with
  | absent noSwitch => rw [FiniteMap.contains, noSwitch]; rfl
  | written found good => rw [FiniteMap.contains, found]; rfl

theorem Visits.result_eq {resolved : Except Fault (Option Bgpvpn)} {tagged : Bool}
    {result : Except Fault Verdict}
    (h : Visits naming False resolved tagged networkId before result after transactions) :
    result = visitResult naming resolved tagged networkId before := by
  cases h with
  | unresolved unknown =>
    subst unknown
    rfl
  | untouched free clean =>
    subst free clean
    rfl
  | settled known due posted =>
    subst known
    rw [visitResult, if_neg (not_idle_iff.mpr due), posted.of_ok.2, posted.there_eq]
  | failed known due posted =>
    subst known
    have refused := posted.of_error.2.resolve_left id
    rw [visitResult, if_neg (not_idle_iff.mpr due), refused]

/-- Of the switches, only whether the network has one matters. -/
theorem visitResult_congr {resolved : Except Fault (Option Bgpvpn)} {tagged : Bool}
    (same : after.contains (naming.logicalName networkId) =
      before.contains (naming.logicalName networkId)) :
    visitResult naming resolved tagged networkId after =
      visitResult naming resolved tagged networkId before := by
  simp only [visitResult, Assignment.refusal?, same]

theorem visitResult_some (bgpvpn : Bgpvpn) (tagged : Bool) :
    visitResult naming (.ok (some bgpvpn)) tagged networkId before =
      visitResult naming (.ok (some bgpvpn)) true networkId before := by
  simp [visitResult]

theorem visitResult_none (tagged : Bool) :
    visitResult naming (.ok none) tagged networkId before =
      .ok (if tagged then .cleared else .untouched) := by
  cases tagged <;> simp [visitResult, Assignment.refusal?, Bag.ofOwner, settledVerdict]

theorem exists_owner_of_visitResult {resolved : Except Fault (Option Bgpvpn)} {tagged : Bool}
    {verdict : Verdict}
    (h : .ok verdict = visitResult naming resolved tagged networkId before)
    (either : verdict = .applied ∨ verdict = .missing) :
    ∃ bgpvpn, resolved = .ok (some bgpvpn) := by
  cases resolved with
  | error fault => cases h
  | ok owner =>
    cases owner with
    | some bgpvpn => exact ⟨bgpvpn, rfl⟩
    | none =>
      rw [visitResult_none] at h
      rcases either with rfl | rfl <;> cases tagged <;> cases h

theorem cleared_of_visitResult {resolved : Except Fault (Option Bgpvpn)} {tagged : Bool}
    (h : .ok .cleared = visitResult naming resolved tagged networkId before) :
    resolved = .ok none ∧ tagged = true := by
  cases resolved with
  | error fault => cases h
  | ok owner =>
    cases owner with
    | none =>
      rw [visitResult_none] at h
      cases tagged with
      | true => exact ⟨rfl, rfl⟩
      | false => cases h
    | some bgpvpn =>
      rw [visitResult_some, visitResult, if_neg (by simp)] at h
      split at h
      · cases h
      · cases there : before.contains (naming.logicalName networkId) <;> rw [there] at h <;> cases h

end Visits

section Sweeps

variable {naming : Naming} {mayAbort : Prop} {resolved : String → Except Fault (Option Bgpvpn)}
  {tagged : String → Bool} {networks : List String} {before after : Switches}
  {results : List (String × Except Fault Verdict)} {transactions : List Transaction}

theorem Sweeps.map_fst
    (h : Sweeps naming mayAbort resolved tagged networks before results after transactions) :
    results.map Prod.fst = networks := by
  induction h with
  | nil switches => rfl
  | cons visit swept ih => rw [List.map_cons, ih]

theorem Sweeps.visit_of_listed
    (h : Sweeps naming mayAbort resolved tagged networks before results after transactions)
    (once : networks.Nodup) {networkId : String} {result : Except Fault Verdict}
    (listed : (networkId, result) ∈ results) :
    ∃ start stop attempts,
      Visits naming mayAbort (resolved networkId) (tagged networkId) networkId start result stop
        attempts ∧
      start.get? (naming.logicalName networkId) = before.get? (naming.logicalName networkId) ∧
      after.get? (naming.logicalName networkId) = stop.get? (naming.logicalName networkId) := by
  have mem : networkId ∈ networks := h.map_fst ▸ List.mem_map_of_mem listed
  obtain ⟨other, start, stop, attempts, listed', visit, started, stopped⟩ := h.visit_of_mem once mem
  have distinct : (results.map Prod.fst).Nodup := h.map_fst ▸ once
  have same := List.inj_on_of_nodup_map distinct listed listed' rfl
  cases same
  exact ⟨start, stop, attempts, visit, started, stopped⟩

/-- Without aborts the results are decided beforehand. -/
theorem Sweeps.listed_iff
    (h : Sweeps naming False resolved tagged networks before results after transactions)
    (once : networks.Nodup) {networkId : String} {result : Except Fault Verdict} :
    (networkId, result) ∈ results ↔ networkId ∈ networks ∧
      result = visitResult naming (resolved networkId) (tagged networkId) networkId before := by
  have decided {result : Except Fault Verdict} (listed : (networkId, result) ∈ results) :
      result = visitResult naming (resolved networkId) (tagged networkId) networkId before := by
    obtain ⟨start, stop, attempts, visit, started, _⟩ := h.visit_of_listed once listed
    rw [visit.result_eq]
    apply visitResult_congr
    rw [FiniteMap.contains, FiniteMap.contains, started]
  constructor
  · intro listed
    exact ⟨h.map_fst ▸ List.mem_map_of_mem listed, decided listed⟩
  · rintro ⟨visited, rfl⟩
    rw [← h.map_fst] at visited
    obtain ⟨⟨_, result⟩, listed, rfl⟩ := List.mem_map.mp visited
    exact decided listed ▸ listed

end Sweeps

end EvpnMetadata.Reconcile
