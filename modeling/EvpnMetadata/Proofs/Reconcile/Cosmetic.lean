import EvpnMetadata.Proofs.Reconcile.Answers
import EvpnMetadata.Proofs.Reconcile.Following
import EvpnMetadata.Proofs.Vpn.Record
import EvpnMetadata.Rehearsal

/-! # Cosmetic updates

The hook of an update is skipped when only the description of a BGPVPN differs.  Nothing is lost by
that: where the old record is published already, the propagation that is skipped would publish the
same attributes once more.
-/

namespace EvpnMetadata.Vpn

/-- Two records are written as objects, and comparing those lists the fields on which the records
differ. -/
structure Revision.IsExact (revision : Revision) : Prop where
  objects : (∃ members, revision.old.toJson = .object members) ∧
    ∃ members, revision.new.toJson = .object members
  written (key : String) :
    revision.old.toJson.fields? [key] ≠ revision.new.toJson.fields? [key] ↔ revision.Differs key
  listed (key : String) :
    key ∈ revision.added ∨ key ∈ revision.removed ∨ key ∈ revision.changed ↔ revision.Differs key
  moving (key : String) : key ∈ revision.moving ↔ revision.Differs key
  added (key : String) : key ∈ revision.added ↔
    (key = "vni" ∧ revision.old.vni = none ∧ revision.new.vni ≠ none) ∨
    (key = "local_pref" ∧ revision.old.localPref = none ∧ revision.new.localPref ≠ none)
  removed (key : String) : key ∈ revision.removed ↔
    (key = "vni" ∧ revision.old.vni ≠ none ∧ revision.new.vni = none) ∨
    (key = "local_pref" ∧ revision.old.localPref ≠ none ∧ revision.new.localPref = none)
  disjoint : revision.added.Disjoint revision.removed ∧ revision.added.Disjoint revision.changed ∧
    revision.removed.Disjoint revision.changed
  cosmetic : revision.isCosmetic = true ↔
    revision.new = { revision.old with
      name := revision.new.name
      projectId := revision.new.projectId
      tenantId := revision.new.tenantId }

theorem Revision.isExact (revision : Revision) : revision.IsExact where
  objects := ⟨⟨_, rfl⟩, _, rfl⟩
  written key := by
    rw [ne_eq, Bgpvpn.fields?_toJson_eq_iff]
    exact get?_fieldMap_ne_iff
  listed key := mem_moving.symm.trans mem_moving_iff
  moving _ := mem_moving_iff
  added _ := mem_added_iff
  removed _ := mem_removed_iff
  disjoint := ⟨disjoint_added_removed, disjoint_added_changed, disjoint_removed_changed⟩
  cosmetic := isCosmetic_iff

end EvpnMetadata.Vpn

namespace EvpnMetadata.Reconcile

open Vpn EvpnMetadata.Topology Switch

def propagate (naming : Naming) (bgpvpn : Bgpvpn) : Attempt Unit := do
  bgpvpn.networks.forM fun networkId => do discard (publish naming networkId bgpvpn)
  bgpvpn.routers.forM fun routerId => do
    let networks ← connectedNetworks routerId
    networks.forM fun networkId => do
      unless bgpvpn.hasNetwork networkId do
        publishThroughRouter naming networkId bgpvpn

theorem afterBgpvpnUpdate_eq (naming : Naming) (old new : Bgpvpn) :
    afterBgpvpnUpdate naming old new =
      if (Revision.mk old new).isCosmetic then pure () else propagate naming new := rfl

def Plan.propagate (topology : Source Unit) (bgpvpn : Bgpvpn) : Agenda :=
  (Agenda.each bgpvpn.networks fun networkId =>
    { assignments := [⟨networkId, some bgpvpn⟩] }).andThen
    (.each bgpvpn.routers fun routerId =>
      .asking ((connectedNetworks routerId).answer topology) fun networks =>
        .each networks fun networkId =>
          if bgpvpn.hasNetwork networkId then {}
          else publishThroughRouter topology networkId bgpvpn)

theorem Follows.propagate {naming : Naming} (topology : Source Unit) (bgpvpn : Bgpvpn) :
    Follows naming topology (propagate naming bgpvpn) (Plan.propagate topology bgpvpn) := by
  refine andThen (each fun networkId => settle networkId (some bgpvpn)) (each fun routerId => ?_)
  refine inquire (isInquiry_connectedNetworks routerId) fun networks => each fun networkId => ?_
  split
  · exact done
  · exact publishThroughRouter topology networkId bgpvpn

/-- A BGPVPN is published on its own networks, and on those of its routers that are associated with
no BGPVPN directly. -/
theorem mem_propagate {topology : Source Unit} {bgpvpn : Bgpvpn} {assignment : Assignment}
    (mem : assignment ∈ (Plan.propagate topology bgpvpn).assignments) :
    assignment.owner = some bgpvpn ∧ (assignment.networkId ∈ bgpvpn.networks ∨
      ∃ routerId ∈ bgpvpn.routers, ∃ ports,
        topology.ports () (.routerInterfacesOf routerId) = .ok ports ∧
        (∃ port ∈ ports, port.networkId = assignment.networkId) ∧
        topology.bgpvpns () (.network assignment.networkId) = .ok []) := by
  rcases Agenda.mem_or_mem_of_andThen mem with listed | routed
  · obtain ⟨networkId, own, here⟩ := Agenda.exists_of_mem_each listed
    obtain rfl := List.mem_singleton.mp here
    exact ⟨rfl, .inl own⟩
  · obtain ⟨routerId, own, reached⟩ := Agenda.exists_of_mem_each routed
    obtain ⟨networks, answered, there⟩ := Agenda.exists_of_mem_asking reached
    obtain ⟨networkId, connected, posted⟩ := Agenda.exists_of_mem_each there
    split at posted
    · cases posted
    · obtain ⟨direct, asked, unshielded⟩ := Agenda.exists_of_mem_asking posted
      split at unshielded
      · next free =>
        obtain rfl := List.mem_singleton.mp unshielded
        rw [answer_connectedNetworks] at answered
        rw [answer_directBgpvpns_nothing, List.isEmpty_iff.mp free] at asked
        cases listed : topology.ports () (.routerInterfacesOf routerId) with
        | error fault =>
          rw [listed] at answered
          cases answered
        | ok ports =>
          rw [listed] at answered
          cases answered
          rw [mem_firsts, List.mem_map] at connected
          exact ⟨rfl, .inr ⟨routerId, own, ports, listed, connected, asked⟩⟩
      · cases unshielded

theorem switches_propagate {naming : Naming} {deployment : Deployment σ} {memory : σ → Memory}
    {mayAbort : Prop} (inMemory : deployment.InMemory memory mayAbort) {bgpvpn : Bgpvpn} {state : σ}
    (carried : ∀ assignment ∈
      (Plan.propagate (deployment.topology.frozen state) bgpvpn).assignments,
      assignment.IsSettled naming (memory state).switches) :
    (memory ((propagate naming bgpvpn).play deployment state).state).switches =
      (memory state).switches := by
  obtain ⟨result, -, performed⟩ := (Follows.propagate _ bgpvpn).performs inMemory rfl
  obtain ⟨done, part, same⟩ := performed.exists_done
  rw [same]
  apply effects_of_isSettled
  intro assignment mem
  exact carried assignment (List.takeWhile_subset _ (part.subset mem))

/-- The comparison of two records is exact, and skipping an update that is cosmetic by it is sound:
where the networks that the old record reaches carry it, those of its routers unless they have a
direct association, propagating the new record would change no switch, whichever queries fail and
whichever transactions are aborted. -/
theorem cosmetic_skip_sound (naming : Naming) (source : Source τ) (draw : π → Bool × π)
    (state : π × τ × Memory) (old new : Bgpvpn) :
    let deployment := source.withSwitches.aborting draw
    let switches := state.2.2.switches
    (Revision.mk old new).IsExact ∧
    (Revision.mk new old).added = (Revision.mk old new).removed ∧
    (Revision.mk new old).removed = (Revision.mk old new).added ∧
    (Revision.mk new old).changed = (Revision.mk old new).changed ∧
    afterBgpvpnUpdate naming old new =
      (if (Revision.mk old new).isCosmetic then pure () else propagate naming new) ∧
    ((Revision.mk old new).isCosmetic = true →
      Bag.ofBgpvpn old = Bag.ofBgpvpn new ∧ old.networks = new.networks ∧
      old.routers = new.routers ∧
      ((∀ networkId ∈ old.networks, Assignment.IsSettled naming ⟨networkId, some old⟩ switches) →
        (∀ routerId ∈ old.routers, ∀ ports,
          source.ports state.2.1 (.routerInterfacesOf routerId) = .ok ports → ∀ port ∈ ports,
            Assignment.IsSettled naming ⟨port.networkId, some old⟩ switches ∨
              source.bgpvpns state.2.1 (.network port.networkId) ≠ .ok []) →
        ((propagate naming new).play deployment state).state.2.2.switches = switches)) := by
  intro deployment switches
  refine ⟨Revision.isExact _, Revision.added_swap old new, rfl, Revision.changed_swap old new,
    afterBgpvpnUpdate_eq naming old new, fun cosmetic => ?_⟩
  have same : Bag.ofBgpvpn new = Bag.ofBgpvpn old := Revision.ofBgpvpn_of_isCosmetic cosmetic
  obtain ⟨networks, routers⟩ := Revision.associations_of_isCosmetic cosmetic
  refine ⟨same.symm, networks, routers, fun listed routed => ?_⟩
  apply switches_propagate ((Deployment.withSwitches_reliable source).aborting draw)
  intro assignment mem
  obtain ⟨owned, reached⟩ := mem_propagate mem
  -- The new record calls for the attributes that the old one has left.
  have settled (before : Assignment.IsSettled naming ⟨assignment.networkId, some old⟩ switches) :
      assignment.IsSettled naming switches := by
    intro entry found
    rw [owned]
    exact same.trans (before entry found)
  rcases reached with own | ⟨routerId, own, ports, answered, ⟨port, there, named⟩, free⟩
  · exact settled (listed _ (networks ▸ own))
  · rcases routed routerId (routers ▸ own) ports answered port there with before | shielded
    · exact settled (named ▸ before)
    · exact absurd (named ▸ free) shielded

def describedSite : Site where
  inventory := { Inventory.attach {} "r1" "n2" "s1" with
    bgpvpns := [
      { id := "a", vpnType := "l3", vni := some 100, networks := ["n1"], routers := ["r1"] },
      { id := "b", vpnType := "l3", vni := some 200, networks := ["n2"] }] }
  switches := { switches := .ofList [
    ("neutron-n1", { uuid := "u-1", bag := .ofList [("type", "l3"), ("vni", "100")] }),
    ("neutron-n2", { uuid := "u-2", bag := .ofList [("type", "l3"), ("vni", "200")] })] }

theorem cosmetic_skip_sound_renamed :
    let old : Bgpvpn :=
      { id := "a", vpnType := "l3", vni := some 100, networks := ["n1"], routers := ["r1"] }
    let new : Bgpvpn := { old with name := "green" }
    let outcome := (propagate {} new).play (Inventory.source.withSwitches.aborting AbortPlan.draw)
      ({}, describedSite.inventory, describedSite.switches)
    (Revision.mk old new).changed = ["name"] ∧ (Revision.mk old new).isCosmetic = true ∧
      outcome.result = .ok () ∧ outcome.transactions.length = 1 ∧
      outcome.state.2.2.switches = describedSite.switches.switches := by
  intro old new outcome
  obtain ⟨-, -, -, -, -, skip⟩ := cosmetic_skip_sound {} Inventory.source AbortPlan.draw
    ({}, describedSite.inventory, describedSite.switches) old new
  have cosmetic : (Revision.mk old new).isCosmetic = true := by decide +kernel
  obtain ⟨-, -, -, kept⟩ := skip cosmetic
  refine ⟨by decide +kernel, cosmetic, by decide +kernel, by decide +kernel, kept ?_ ?_⟩
  · decide +kernel
  · intro routerId own ports answered port there
    obtain rfl := List.mem_singleton.mp own
    cases Except.ok.inj answered
    revert port
    decide +kernel

end EvpnMetadata.Reconcile
