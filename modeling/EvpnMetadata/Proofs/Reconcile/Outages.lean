import EvpnMetadata.KeyValue.TopologyTables
import EvpnMetadata.Proofs.Reconcile.Accounting
import EvpnMetadata.Proofs.Reconcile.Gathering
import EvpnMetadata.Rehearsal

/-! # Sweeps of a topology with outages

A sweep lists ports on two occasions: it asks for the networks of each router while it gathers the
networks to visit, and for the routers of a network without a direct BGPVPN while it visits the
network.  A fault on the second occasion fails one network, a fault on the first one ends the sweep
before any visit.
-/

namespace EvpnMetadata

open Vpn EvpnMetadata.Topology Switch

/-- Where only port listings are out, the BGPVPNs are listed as before. -/
theorem Topology.Source.ListsRecords.withOutage {source : Source σ} {state : σ}
    {records : List Bgpvpn} (listed : source.ListsRecords state records) {outage : σ → List String}
    (onlyPorts : ∀ query ∈ outage state, ∃ label, query = "list_ports:" ++ label) :
    (source.withOutage outage).ListsRecords state records := by
  intro filter
  change answerUnless (outage state) "list_bgpvpns" filter.label (source.bgpvpns state filter) = _
  rw [answerUnless, if_neg, listed]
  intro out
  obtain ⟨label, same⟩ := onlyPorts _ (List.contains_iff_mem.mp out)
  have letters := congrArg String.toList same
  simp at letters

namespace Reconcile

section Verdicts

variable {naming : Naming} {networkId : String} {switches : Switches}

theorem visitResult_eq_error {resolved : Except Fault (Option Bgpvpn)} {tagged : Bool}
    {fault : Fault} :
    visitResult naming resolved tagged networkId switches = .error fault ↔
      resolved = .error fault ∨
        switches.get? (naming.logicalName networkId) ≠ none ∧
          ∃ bgpvpn, resolved = .ok (some bgpvpn) ∧ Bag.ofBgpvpn bgpvpn = .error fault := by
  rw [← Option.isSome_iff_ne_none, ← FiniteMap.contains]
  cases resolved with
  | error other => simp [visitResult]
  | ok owner =>
    cases owner with
    | none => simp [visitResult_none]
    | some bgpvpn =>
      simp only [visitResult, Assignment.refusal?, Bag.ofOwner]
      cases switches.contains (naming.logicalName networkId) <;>
        cases built : Bag.ofBgpvpn bgpvpn <;> simp [built]

theorem visitResult_applied {bgpvpn : Bgpvpn} {tagged : Bool} {entry : Entry} {attributes : Bag}
    (found : switches.get? (naming.logicalName networkId) = some entry)
    (good : Bag.ofOwner (some bgpvpn) = .ok attributes) :
    visitResult naming (.ok (some bgpvpn)) tagged networkId switches = .ok .applied := by
  have there : switches.contains (naming.logicalName networkId) = true :=
    (FiniteMap.contains_iff _ _).mpr ⟨entry, found⟩
  simp [visitResult, Assignment.refusal?, there, good, settledVerdict]

section Sweeps

variable {resolved : String → Except Fault (Option Bgpvpn)} {tagged : String → Bool}
  {networks : List String} {before after : Switches}
  {results : List (String × Except Fault Verdict)} {transactions : List Transaction}
  (h : Sweeps naming False resolved tagged networks before results after transactions)
  (once : networks.Nodup)

include h once

theorem Sweeps.applied {bgpvpn : Bgpvpn} {entry : Entry} {attributes : Bag}
    (due : networkId ∈ networks) (known : resolved networkId = .ok (some bgpvpn))
    (found : before.get? (naming.logicalName networkId) = some entry)
    (good : Bag.ofOwner (some bgpvpn) = .ok attributes) :
    networkId ∈ (reportOf results).applied ∧ after.get? (naming.logicalName networkId) =
      some { entry with bag := Bag.carrying entry.bag attributes } := by
  have listed : (networkId, .ok .applied) ∈ results := by
    rw [h.listed_iff once, known, visitResult_applied found good]
    exact ⟨due, rfl⟩
  have left := (h.account once known listed).2.2.2 .applied rfl
  rw [found, Option.map_some, visitedEntry, settledEntry_eq good] at left
  exact ⟨mem_withVerdict.mpr listed, left⟩

theorem Sweeps.mem_failed_iff {message : String} :
    (networkId, message) ∈ (reportOf results).failed ↔
      networkId ∈ networks ∧ ∃ fault, fault.message = message ∧
        (resolved networkId = .error fault ∨
          before.get? (naming.logicalName networkId) ≠ none ∧
            ∃ bgpvpn, resolved networkId = .ok (some bgpvpn) ∧
              Bag.ofBgpvpn bgpvpn = .error fault) := by
  change (networkId, message) ∈ failures results ↔ _
  simp only [mem_failures_iff, h.listed_iff once, @eq_comm _ (Except.error _),
    visitResult_eq_error]
  constructor
  · rintro ⟨fault, ⟨due, cause⟩, same⟩
    exact ⟨due, fault, same, cause⟩
  · rintro ⟨due, fault, same, cause⟩
    exact ⟨fault, ⟨due, cause⟩, same⟩

theorem Sweeps.kept_of_failed (failed : networkId ∈ (reportOf results).failed.map Prod.fst) :
    after.get? (naming.logicalName networkId) = before.get? (naming.logicalName networkId) := by
  obtain ⟨fault, listed⟩ := mem_failures.mp failed
  obtain ⟨start, stop, _, visit, started, stopped⟩ := h.visit_of_listed once listed
  obtain rfl := visit.of_error rfl
  exact stopped.trans started

end Sweeps

end Verdicts

/-- A sweep that cannot gather its networks ends before its first visit. -/
theorem sweep_of_gatherFault (naming : Naming) {deployment : Deployment σ} {memory : σ → Memory}
    {mayAbort : Prop} (inMemory : deployment.InMemory memory mayAbort) (state : σ)
    {records : List Bgpvpn} (listed : deployment.topology.ListsRecords state records)
    (hidden : ∃ fault, GatherFault (deployment.topology.frozen state) records fault) :
    ∃ fault, GatherFault (deployment.topology.frozen state) records fault ∧
      ((sweep naming).play deployment state).quiet = { result := .error fault, state } := by
  have answers : (deployment.topology.frozen state).ListsRecords () records := listed
  obtain ⟨fault, met, refused⟩ :=
    (needs_cases answers).resolve_right fun ⟨shown, _⟩ => hidden.elim shown
  refine ⟨fault, met, ?_⟩
  rcases sweep_cases naming inMemory state with ⟨_, unanswered, ended⟩ | ⟨_, _, _, answered, _⟩
  · cases refused.symm.trans unanswered
    exact ended
  · cases refused.symm.trans answered

/-- A fault in listing the interfaces of a router that a BGPVPN is associated with ends a sweep
before it changes anything.  Any other fault in listing ports fails a network that has no direct
BGPVPN, and only this one: the networks with one are published as ever. -/
theorem sweep_with_outages (naming : Naming) {deployment : Deployment σ} {memory : σ → Memory}
    (reliable : deployment.Reliable memory) (state : σ) {records : List Bgpvpn}
    (listed : deployment.topology.ListsRecords state records) :
    let topology := deployment.topology.frozen state
    let outcome := (sweep naming).play deployment state
    let row (state : σ) (networkId : String) :=
      (memory state).switches.get? (naming.logicalName networkId)
    let direct (networkId : String) := records.find? fun bgpvpn => bgpvpn.hasNetwork networkId
    ((∃ fault, GatherFault topology records fault) →
      ∃ fault, GatherFault topology records fault ∧ outcome.result = .error fault ∧
        outcome.state = state ∧ outcome.transactions = []) ∧
    ((¬∃ fault, GatherFault topology records fault) →
      ∃ report, outcome.result = .ok report ∧ ∀ networkId,
        (∀ bgpvpn entry attributes, direct networkId = some bgpvpn →
          row state networkId = some entry → Bag.ofBgpvpn bgpvpn = .ok attributes →
          networkId ∈ report.applied ∧ row outcome.state networkId =
            some { entry with bag := Bag.carrying entry.bag attributes }) ∧
        (∀ message, (networkId, message) ∈ report.failed ↔
          (isTagged (row state networkId) = true ∨ IsNeeded topology records networkId) ∧
          ∃ fault, fault.message = message ∧
            (direct networkId = none ∧
                deployment.topology.ports state (.routerInterfacesOn networkId) = .error fault ∨
              row state networkId ≠ none ∧ ∃ bgpvpn,
                ((effective networkId .nothing).play deployment state).result =
                  .ok (some bgpvpn) ∧ Bag.ofBgpvpn bgpvpn = .error fault)) ∧
        (networkId ∈ report.failed.map Prod.fst →
          row outcome.state networkId = row state networkId)) := by
  intro topology outcome row direct
  replace listed : topology.ListsRecords () records := listed
  refine ⟨fun hidden => ?_, fun shown => ?_⟩
  · obtain ⟨fault, hidden, ended⟩ := sweep_of_gatherFault naming reliable state listed hidden
    exact ⟨fault, hidden, Outcome.of_quiet [] ended⟩
  · obtain ⟨_, needed, answered, mem⟩ :=
      (needs_cases listed).resolve_left fun ⟨fault, hidden, _⟩ => shown ⟨fault, hidden⟩
    rcases sweep_cases naming reliable state with ⟨_, unanswered, _⟩ |
      ⟨_, networks, results, same, ascending, visited, ended, swept⟩
    · cases unanswered.symm.trans answered
    cases same.symm.trans answered
    replace swept : Sweeps naming False
      (fun networkId => (effective networkId .nothing).answer topology) _ _ _ _ _ _ := swept
    have once : networks.Nodup := ascending.nodup
    rw [foldl_collect_empty] at ended
    refine ⟨reportOf results, ended, fun networkId => ⟨?_, fun message => ?_, fun failed => ?_⟩⟩
    · intro bgpvpn entry attributes first found good
      have own : networkId ∈ bgpvpn.networks := by
        simpa [Bgpvpn.hasNetwork] using List.find?_some first
      have due : networkId ∈ networks :=
        (visited networkId).mpr (.inr ((mem networkId).mpr
          ⟨bgpvpn, List.mem_of_find?_eq_some first, .inl own⟩))
      exact swept.applied once due (answer_effective_of_direct listed first) found good
    · have played : ((effective networkId .nothing).play deployment state).result =
          (effective networkId .nothing).answer topology :=
        congrArg Outcome.result
          ((isInquiry_effective networkId .nothing).quiet_play deployment state)
      rw [swept.mem_failed_iff once, visited, mem]
      simp only [answer_effective_eq_error listed, played]
      rfl
    · exact swept.kept_of_failed once failed

/-- The interfaces on one network cannot be listed: it fails, and the other one is published. -/
theorem sweep_with_outages_oneNetwork :
    let source := (Inventory.source.comap Prod.fst).withOutage Prod.snd
    let first : Bgpvpn := { id := "a", vpnType := "l3", vni := some 100, networks := ["n1"] }
    let second : Bgpvpn := { id := "b", vpnType := "l3", vni := some 200, routers := ["r1"] }
    let inventory : Inventory :=
      { ports := [Inventory.interfacePort "r1" "n2" "s1"], bgpvpns := [first, second] }
    let memory := (Memory.add {} "neutron-n1" "u-1").add "neutron-n2" "u-2"
    let state := ((inventory, ["list_ports:*/n2"]), memory)
    let outcome := (sweep {}).play source.withSwitches state
    ∃ report, outcome.result = .ok report ∧ "n1" ∈ report.applied ∧
      outcome.state.2.switches.get? "neutron-n1" =
        some { uuid := "u-1", bag := .ofList [("type", "l3"), ("vni", "100")] } ∧
      ("n2", "Topology query failed: list_ports: injected for */n2") ∈ report.failed ∧
      outcome.state.2.switches.get? "neutron-n2" = some { uuid := "u-2", bag := .empty } := by
  intro source first second inventory memory state outcome
  have listed : source.ListsRecords state.1 inventory.bgpvpns := by
    refine Topology.Source.ListsRecords.withOutage (fun _ => rfl) ?_
    intro query mem
    exact ⟨"*/n2", List.mem_singleton.mp mem⟩
  obtain ⟨-, confined⟩ :=
    sweep_with_outages {} (Deployment.withSwitches_reliable source) state listed
  have answered : ∀ bgpvpn ∈ inventory.bgpvpns, ∀ routerId ∈ bgpvpn.routers,
      (source.ports state.1 (.routerInterfacesOf routerId)).toOption ≠ none := by
    decide +kernel
  have shown : ¬∃ fault, GatherFault (source.withSwitches.topology.frozen state)
      inventory.bgpvpns fault := by
    rintro ⟨fault, bgpvpn, mem, routerId, own, refusal⟩
    exact answered bgpvpn mem routerId own (congrArg Except.toOption refusal)
  obtain ⟨report, ended, each⟩ := confined shown
  obtain ⟨published, -, -⟩ := each "n1"
  obtain ⟨applied, carried⟩ := published first { uuid := "u-1", bag := .empty }
    (.ofList [("type", "l3"), ("vni", "100")]) (by decide +kernel) (by decide +kernel)
    (by decide +kernel)
  obtain ⟨-, fails, kept⟩ := each "n2"
  have failed := (fails "Topology query failed: list_ports: injected for */n2").mpr
    ⟨.inr ⟨second, by simp [inventory], .inr ⟨"r1", by simp [second],
        [Inventory.interfacePort "r1" "n2" "s1"], by decide +kernel, _, List.mem_cons_self, rfl⟩⟩,
      .queryFailed "list_ports" "injected for */n2", by decide +kernel,
      .inl ⟨by decide +kernel, by decide +kernel⟩⟩
  -- Left as it is, the outcome would be evaluated to compare the states.
  dsimp only [outcome]
  exact ⟨report, ended, applied, carried.trans (by decide +kernel), failed,
    (kept (List.mem_map_of_mem failed)).trans (by decide +kernel)⟩

/-- One router whose interfaces cannot be listed keeps a network of another BGPVPN from being
published, for which no port has to be listed. -/
theorem sweep_ended_by_router :
    let source := (Inventory.source.comap Prod.fst).withOutage Prod.snd
    let first : Bgpvpn := { id := "v1", vpnType := "l3", vni := some 100, networks := ["n1"] }
    let second : Bgpvpn := { id := "v2", vpnType := "l3", vni := some 200, routers := ["r1"] }
    let inventory : Inventory := { bgpvpns := [first, second] }
    let outcome := (sweep {}).play source.withSwitches
      ((inventory, ["list_ports:r1/*"]), Memory.add {} "neutron-n1" "u-1")
    source.ListsRecords (inventory, ["list_ports:r1/*"]) inventory.bgpvpns ∧
      outcome.result = .error (.queryFailed "list_ports" "injected for r1/*") ∧
      outcome.state.2.switches.get? "neutron-n1" = some { uuid := "u-1", bag := .empty } := by
  refine ⟨Topology.Source.ListsRecords.withOutage (fun _ => rfl) ?_, ?_, ?_⟩
  · intro query mem
    exact ⟨"r1/*", List.mem_singleton.mp mem⟩
  · decide +kernel
  · decide +kernel

end Reconcile

namespace KeyValue

open Reconcile

variable {database : Database} {objects : List (String × Hash)}

theorem TopologyTables.ports_of_malformed
    (fetched : TopologyTables.fetchAll database "PORT" = .ok objects)
    (malformed : ∃ object ∈ objects, ∃ fault,
      TopologyTables.port object.1 object.2 = .error fault) :
    ∃ fault, (∃ object ∈ objects, TopologyTables.port object.1 object.2 = .error fault) ∧
      ∀ filter, TopologyTables.source.ports database filter = .error fault := by
  obtain ⟨object, mem, fault, refusal, refused⟩ := mapM_refused malformed
  refine ⟨fault, ⟨object, mem, refusal⟩, fun filter => ?_⟩
  simp only [TopologyTables.source, fetched, Attempt.ok_bind, refused]
  rfl

/-- One malformed port ends every sweep while a BGPVPN is associated with a router. -/
theorem sweep_of_malformed (naming : Naming) {records : List Bgpvpn} (memory : Memory)
    (listed : TopologyTables.source.ListsRecords database records)
    (routed : ∃ bgpvpn ∈ records, bgpvpn.routers ≠ [])
    (fetched : TopologyTables.fetchAll database "PORT" = .ok objects)
    (malformed : ∃ object ∈ objects, ∃ fault,
      TopologyTables.port object.1 object.2 = .error fault) :
    ∃ fault, (∃ object ∈ objects, TopologyTables.port object.1 object.2 = .error fault) ∧
      ((sweep naming).play TopologyTables.source.withSwitches (database, memory)).quiet =
        { result := .error fault, state := (database, memory) } := by
  obtain ⟨fault, cause, refused⟩ := TopologyTables.ports_of_malformed fetched malformed
  obtain ⟨bgpvpn, mem, own⟩ := routed
  obtain ⟨routerId, here⟩ := List.exists_mem_of_ne_nil _ own
  obtain ⟨other, ⟨_, _, _, _, refusal⟩, ended⟩ := sweep_of_gatherFault naming
    (Deployment.withSwitches_reliable TopologyTables.source) (database, memory) listed
    ⟨fault, bgpvpn, mem, routerId, here, refused _⟩
  cases (refused _).symm.trans refusal
  exact ⟨fault, cause, ended⟩

end KeyValue

end EvpnMetadata
