import EvpnMetadata.Proofs.Reconcile.Interruption
import EvpnMetadata.Proofs.Reconcile.Shielding
import EvpnMetadata.Proofs.Reconcile.Updating
import Mathlib.Data.List.Count

/-! # How often an event writes a switch

An event attempts transactions only on the networks that its object reaches, and one at most on each
of them.  The exception is the update of a BGPVPN: a network that it only reaches through routers is
written once for each of its routers there, since no router knows what another one has brought.
-/

namespace EvpnMetadata.Topology.Inventory

open Vpn Lifecycle Reconcile

variable (inventory : Inventory)

/-- The number of routers of a BGPVPN that have an interface on a network. -/
def crossings (bgpvpn : Bgpvpn) (networkId : String) : Nat :=
  bgpvpn.routers.countP fun routerId => networkId ∈ inventory.connected routerId

theorem networks_unshielded (departing : Departing) (owner : String → Option Bgpvpn)
    (networks : List String) :
    (inventory.unshielded departing owner networks).map Assignment.networkId =
      networks.filter fun networkId => (inventory.direct networkId departing).isEmpty := by
  rw [unshielded, List.map_map]
  exact List.map_id _

theorem nodup_networks_unshielded (departing : Departing) (owner : String → Option Bgpvpn)
    {networks : List String} (nodup : networks.Nodup) :
    ((inventory.unshielded departing owner networks).map Assignment.networkId).Nodup := by
  rw [networks_unshielded]
  exact nodup.filter _

theorem nodup_connected (routerId : String) : (inventory.connected routerId).Nodup :=
  nodup_firsts _

theorem nodup_networks_routerAssociation (association : RouterAssociation) :
    ((inventory.agendaOfRouterAssociation association).assignments.map
      Assignment.networkId).Nodup := by
  rcases inventory.assignments_routerAssociation association with none | ⟨bgpvpn, _, all⟩
  · rw [none]
    exact List.nodup_nil
  · rw [all]
    exact inventory.nodup_networks_unshielded _ _ (inventory.nodup_connected _)

/-- Every event but the update of a BGPVPN visits its networks once. -/
theorem nodup_networks_agenda {event : Event}
    (once : ∀ bgpvpn ∈ event.snapshots, bgpvpn.networks.Nodup)
    (other : ∀ old new, event ≠ .bgpvpnUpdate .postcommit old new) :
    ((inventory.agenda event).assignments.map Assignment.networkId).Nodup := by
  cases event with
  | bgpvpnUpdate phase old new =>
    cases phase with
    | precommit => exact List.nodup_nil
    | postcommit => exact absurd rfl (other old new)
  | bgpvpnDelete phase bgpvpn =>
    cases phase with
    | precommit =>
      have visited : (inventory.reached bgpvpn).Nodup :=
        nodup_foldl_appendNew inventory.connected _ (once bgpvpn (List.mem_singleton_self _))
      rw [agenda, List.map_map]
      exact (List.map_id _).symm ▸ visited
    | postcommit => exact List.nodup_nil
  | networkAssociationCreate phase association =>
    cases phase with
    | precommit => exact List.nodup_nil
    | postcommit =>
      rw [agenda, agendaOfRecord]
      split
      · exact List.nodup_singleton _
      · exact List.nodup_nil
  | networkAssociationDelete phase association =>
    cases phase with
    | precommit => exact List.nodup_singleton _
    | postcommit => exact List.nodup_nil
  | routerAssociationCreate phase association =>
    cases phase with
    | precommit =>
      rw [agenda, agendaOfRecord]
      split <;> exact List.nodup_nil
    | postcommit => exact inventory.nodup_networks_routerAssociation association
  | routerAssociationUpdate phase old association =>
    cases phase with
    | precommit => exact List.nodup_nil
    | postcommit => exact inventory.nodup_networks_routerAssociation association
  | routerAssociationDelete phase association =>
    cases phase with
    | precommit => exact inventory.nodup_networks_unshielded _ _ (inventory.nodup_connected _)
    | postcommit => exact List.nodup_nil
  | routerInterfaceCreated routerId port =>
    rw [agenda]
    split
    · exact List.nodup_nil
    · exact inventory.nodup_networks_unshielded _ _ (List.nodup_singleton _)
  | routerInterfaceDeleted routerId subnetId =>
    rw [agenda]
    split
    · exact List.nodup_nil
    · exact List.nodup_singleton _
  | bgpvpnCreate phase => cases phase <;> exact List.nodup_nil
  | portAssociationCreate | portAssociationUpdate | portAssociationDelete => exact List.nodup_nil

/-- A router brings the networks that are neither listed nor shielded, each once. -/
theorem count_unlisted (bgpvpn : Bgpvpn) (networkId routerId : String) :
    ((inventory.unshielded .nothing (fun _ => some bgpvpn) (inventory.unlisted bgpvpn routerId)).map
      Assignment.networkId).count networkId =
      if networkId ∈ inventory.connected routerId ∧ networkId ∉ bgpvpn.networks ∧
        inventory.direct networkId .nothing = [] then 1 else 0 := by
  have nodup : (inventory.unlisted bgpvpn routerId).Nodup :=
    (inventory.nodup_connected routerId).filter _
  rw [(inventory.nodup_networks_unshielded .nothing _ nodup).count, networks_unshielded]
  simp only [unlisted, List.mem_filter, Bgpvpn.hasNetwork, List.isEmpty_iff, Bool.not_eq_true',
    List.contains_eq_mem, decide_eq_false_iff_not, and_assoc]

theorem count_extent (bgpvpn : Bgpvpn) (networkId : String) :
    ((inventory.extent bgpvpn).map Assignment.networkId).count networkId =
      bgpvpn.networks.count networkId +
        if networkId ∉ bgpvpn.networks ∧ inventory.direct networkId .nothing = [] then
          inventory.crossings bgpvpn networkId
        else 0 := by
  rw [extent, List.map_append, List.count_append, List.map_map, crossings]
  congr 1
  · exact congrArg (List.count networkId) (List.map_id _)
  · induction bgpvpn.routers with
    | nil => simp
    | cons routerId rest ih =>
      rw [List.flatMap_cons, List.map_append, List.count_append, ih, count_unlisted,
        List.countP_cons]
      by_cases behind : networkId ∉ bgpvpn.networks ∧ inventory.direct networkId .nothing = []
      · rw [if_pos behind, if_pos behind, Nat.add_comm]
        simp [behind]
      · rw [if_neg behind, if_neg behind, if_neg fun both => behind both.2]

theorem count_update_le_one {old new : Bgpvpn} (nodup : new.networks.Nodup) {networkId : String}
    (own : networkId ∈ new.networks) :
    ((inventory.agenda (.bgpvpnUpdate .postcommit old new)).assignments.map
      Assignment.networkId).count networkId ≤ 1 := by
  rw [assignments_update]
  split
  · exact Nat.zero_le _
  · rw [count_extent, if_neg fun behind => behind.1 own]
    exact List.nodup_iff_count_le_one.mp nodup networkId

theorem count_extent_of_unlisted {bgpvpn : Bgpvpn} {networkId : String}
    (unlisted : networkId ∉ bgpvpn.networks) :
    ((inventory.extent bgpvpn).map Assignment.networkId).count networkId =
      if inventory.direct networkId .nothing = [] then inventory.crossings bgpvpn networkId
      else 0 := by
  rw [count_extent, List.count_eq_zero_of_not_mem unlisted, Nat.zero_add]
  simp [unlisted]

end EvpnMetadata.Topology.Inventory

namespace EvpnMetadata.Reconcile

open Vpn EvpnMetadata.Topology Switch Lifecycle

section Names

variable {naming : Naming} {mayAbort : Prop} {before after : Switches}
  {transactions : List Transaction}

theorem Posts.names_sublist {assignment : Assignment} {result : Except Fault Bool}
    (h : Posts naming mayAbort assignment before result after transactions) :
    (transactions.map Transaction.name).Sublist [naming.logicalName assignment.networkId] := by
  cases h with
  | absent | refused => exact List.nil_sublist _
  | written | aborted => exact List.Sublist.refl _

theorem Posts.names_of_ok {assignment : Assignment} {there : Bool}
    (h : Posts naming mayAbort assignment before (.ok there) after transactions) :
    transactions.map Transaction.name =
      [naming.logicalName assignment.networkId].filter before.contains := by
  cases h with
  | absent noSwitch => simp [FiniteMap.contains, noSwitch]
  | written found good => simp [FiniteMap.contains, found, Assignment.transaction]

variable {assignments : List Assignment}

theorem Performs.names_sublist {result : Except Fault Unit}
    (h : Performs naming mayAbort assignments before result after transactions) :
    (transactions.map Transaction.name).Sublist
      (assignments.map fun assignment => naming.logicalName assignment.networkId) := by
  induction h with
  | nil => exact List.Sublist.refl _
  | cons posted performed ih =>
    rw [List.map_append]
    exact posted.names_sublist.append ih
  | stop rest failed => exact failed.names_sublist.trans ((List.nil_sublist _).cons_cons _)

/-- When all goes well, each assignment takes one transaction if there is a switch. -/
theorem Performs.names_of_ok
    (h : Performs naming mayAbort assignments before (.ok ()) after transactions) :
    transactions.map Transaction.name =
      (assignments.map fun assignment => naming.logicalName assignment.networkId).filter
        before.contains := by
  generalize ended : Except.ok () = result at h
  induction h with
  | nil => rfl
  | @cons assignment rest before middle _ _ _ _ _ posted performed ih =>
    have same : middle.contains = before.contains := by
      rw [posted.of_ok.1]
      exact funext (assignment.contains_effect naming before)
    rw [List.map_append, posted.names_of_ok, ih ended, same, List.map_cons, ← List.filter_append]
    rfl
  | stop rest failed => cases ended

theorem count_logicalName (naming : Naming) (assignments : List Assignment) (networkId : String) :
    (assignments.map fun assignment => naming.logicalName assignment.networkId).count
        (naming.logicalName networkId) =
      (assignments.map Assignment.networkId).count networkId := by
  have injective : naming.logicalName.Injective := fun _ _ => naming.logicalName_inj.mp
  have named : (assignments.map fun assignment => naming.logicalName assignment.networkId) =
      (assignments.map Assignment.networkId).map naming.logicalName := (List.map_map ..).symm
  rw [named]
  exact List.count_map_of_injective _ _ injective networkId

end Names

def attempts (naming : Naming) (transactions : List Transaction) (networkId : String) : Nat :=
  (transactions.map Transaction.name).count (naming.logicalName networkId)

theorem Performs.attempts_le {naming : Naming} {mayAbort : Prop} {assignments : List Assignment}
    {before after : Switches} {result : Except Fault Unit} {transactions : List Transaction}
    (h : Performs naming mayAbort assignments before result after transactions)
    (networkId : String) :
    attempts naming transactions networkId ≤
      (assignments.map Assignment.networkId).count networkId := by
  rw [← count_logicalName naming]
  exact h.names_sublist.count_le _

theorem Performs.attempts_eq {naming : Naming} {mayAbort : Prop} {assignments : List Assignment}
    {before after : Switches} {transactions : List Transaction} {networkId : String}
    (h : Performs naming mayAbort assignments before (.ok ()) after transactions)
    (there : before.contains (naming.logicalName networkId) = true) :
    attempts naming transactions networkId =
      (assignments.map Assignment.networkId).count networkId := by
  rw [attempts, h.names_of_ok, List.count_filter there, count_logicalName]

/-- An event attempts transactions only on networks that its object reaches, and at most one on each
of them, unless it is the update of a BGPVPN that does not list the network.  An update attempts at
most one for each router of the BGPVPN on the network, and exactly as many if it is significant,
nobody is associated with the network directly, there is a switch and nothing fails. -/
theorem attempts_per_switch (naming : Naming) (draw : π → Bool × π) (plan : π) (site : Site)
    {event : Event} (once : ∀ bgpvpn ∈ event.snapshots, bgpvpn.networks.Nodup) :
    let outcome := (delivery naming event).play (Site.deployment.aborting draw) (plan, site)
    (∀ transaction ∈ outcome.transactions, ∃ networkId,
      site.inventory.ReachedBy networkId event ∧
        transaction.name = naming.logicalName networkId) ∧
    ∀ networkId,
      ((∀ old new, event = .bgpvpnUpdate .postcommit old new → networkId ∈ new.networks) →
        attempts naming outcome.transactions networkId ≤ 1) ∧
      ∀ old new, event = .bgpvpnUpdate .postcommit old new → networkId ∉ new.networks →
        attempts naming outcome.transactions networkId ≤
          site.inventory.crossings new networkId ∧
        ((Revision.mk old new).isCosmetic = false →
          (∀ bgpvpn, ¬site.inventory.Direct networkId bgpvpn) →
          site.switches.switches.contains (naming.logicalName networkId) = true →
          outcome.result = .ok () →
            attempts naming outcome.transactions networkId =
              site.inventory.crossings new networkId) := by
  intro outcome
  obtain ⟨result, ended, performed⟩ := delivers_under_aborts naming draw plan site event
  refine ⟨fun transaction attempted => ?_, fun networkId => ⟨fun listed => ?_, ?_⟩⟩
  · obtain ⟨assignment, listed, _, _, rfl⟩ := performed.exists_isSettledBy attempted
    exact ⟨assignment.networkId, (Inventory.calls_of_mem listed).reachedBy, rfl⟩
  · apply (performed.attempts_le networkId).trans
    by_cases update : ∃ old new, event = .bgpvpnUpdate .postcommit old new
    · obtain ⟨old, new, rfl⟩ := update
      exact site.inventory.count_update_le_one (once new (by simp [Event.snapshots]))
        (listed old new rfl)
    · have other : ∀ old new, event ≠ .bgpvpnUpdate .postcommit old new :=
        fun old new same => update ⟨old, new, same⟩
      have nodup := site.inventory.nodup_networks_agenda once other
      exact List.nodup_iff_count_le_one.mp nodup networkId
  · rintro old new rfl unlisted
    have visited := site.inventory.count_extent_of_unlisted unlisted
    rw [assignments_update] at performed
    constructor
    · apply (performed.attempts_le networkId).trans
      split
      · exact Nat.zero_le _
      · rw [visited]
        split
        · exact Nat.le_refl _
        · exact Nat.zero_le _
    · intro significant free there handled
      rw [if_neg (by rw [significant]; exact Bool.false_ne_true)] at performed
      obtain ⟨rfl⟩ : result = .ok () := by
        cases result with
        | ok done => rfl
        | error fault =>
          rw [show outcome.result = _ from ended] at handled
          cases handled
      rw [performed.attempts_eq there, visited, if_pos (Inventory.direct_eq_nil_iff.mpr free)]

def crossedSite : Site where
  inventory := ((Inventory.attach {} "r1" "n1" "s1").attach "r2" "n1" "s2").putBgpvpn
    { id := "a", vpnType := "l3", vni := some 100, localPref := some 200, routers := ["r1", "r2"] }
  switches := Memory.add {} "neutron-n1" "uuid-1"

/-- The BGPVPN gets a local preference, which is published through each of its two routers. -/
theorem attempts_per_switch_crossedSite :
    let old : Bgpvpn := { id := "a", vpnType := "l3", vni := some 100, routers := ["r1", "r2"] }
    let new : Bgpvpn := { old with localPref := some 200 }
    let outcome := (delivery {} (.bgpvpnUpdate .postcommit old new)).play
      (Site.deployment.aborting fun plan : Unit => (false, plan)) ((), crossedSite)
    (∀ bgpvpn ∈ (Event.bgpvpnUpdate .postcommit old new).snapshots, bgpvpn.networks.Nodup) ∧
    (∀ transaction ∈ outcome.transactions, ∃ networkId,
      crossedSite.inventory.ReachedBy networkId (.bgpvpnUpdate .postcommit old new) ∧
        transaction.name = Naming.logicalName {} networkId) ∧
    crossedSite.inventory.crossings new "n1" = 2 ∧ outcome.result = .ok () ∧
    attempts {} outcome.transactions "n1" = crossedSite.inventory.crossings new "n1" := by
  intro old new outcome
  have once : ∀ bgpvpn ∈ (Event.bgpvpnUpdate .postcommit old new).snapshots,
      bgpvpn.networks.Nodup := by decide
  have free : ∀ bgpvpn, ¬crossedSite.inventory.Direct "n1" bgpvpn :=
    Inventory.direct_eq_nil_iff.mp (by decide)
  have handled : outcome.result = .ok () := by decide +kernel
  obtain ⟨reached, bounded⟩ :=
    attempts_per_switch {} (fun plan : Unit => (false, plan)) () crossedSite once
  have exactly := ((bounded "n1").2 old new rfl (by decide)).2 (by decide) free (by decide) handled
  exact ⟨once, reached, by decide, handled, exactly⟩

/-- An update writes the shared network of two routers twice, although the record lists every router
once and no network at all.  The deletion of the same record writes it once. -/
theorem update_writes_shared_network_twice :
    let old : Bgpvpn := { id := "a", vpnType := "l3", vni := some 100, routers := ["r1", "r2"] }
    let new : Bgpvpn := { old with localPref := some 200 }
    let updated := (delivery {} (.bgpvpnUpdate .postcommit old new)).play
      Site.deployment crossedSite
    let deleted := (delivery {} (.bgpvpnDelete .precommit new)).play Site.deployment crossedSite
    (∀ bgpvpn ∈ (Event.bgpvpnUpdate .postcommit old new).snapshots,
      bgpvpn.networks.Nodup ∧ bgpvpn.routers.Nodup) ∧
    updated.transactions.map Transaction.name = ["neutron-n1", "neutron-n1"] ∧
    deleted.transactions.map Transaction.name = ["neutron-n1"] := by
  intro old new updated deleted
  exact ⟨by decide, by decide +kernel, by decide +kernel⟩

end EvpnMetadata.Reconcile
