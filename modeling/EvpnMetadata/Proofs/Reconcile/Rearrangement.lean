import EvpnMetadata.Proofs.Reconcile.Calls
import EvpnMetadata.Proofs.Reconcile.Changes
import EvpnMetadata.Proofs.Reconcile.Restoration
import EvpnMetadata.Proofs.Reconcile.Undisputed

/-! # Rearranged inventories

Two inventories may hold the same objects in different orders.  Where nobody disputes a network, the
two put the same BGPVPN on it.  So an event calls for the same assignments on both, if in another
order, and they leave the same metadata.
-/

namespace EvpnMetadata.Topology

open Vpn Switch Lifecycle Reconcile

/-- An inventory with the objects of another one in any order; the names of routers do not count. -/
structure Inventory.Rearranges (mirrored inventory : Inventory) : Prop where
  routers : (mirrored.routers.map Router.id).Perm (inventory.routers.map Router.id)
  ports : mirrored.ports.Perm inventory.ports
  subnets : mirrored.subnets.Perm inventory.subnets
  bgpvpns : mirrored.bgpvpns.Perm inventory.bgpvpns

theorem find?_perm {key : α → String} {items others : List α} (perm : others.Perm items)
    (distinct : (items.map key).Nodup) (id : String) :
    (others.find? fun other => key other = id) = items.find? fun other => key other = id := by
  have distinct' : (others.map key).Nodup := (perm.map key).nodup_iff.mpr distinct
  ext item
  rw [find?_eq_some_iff distinct, find?_eq_some_iff distinct', perm.mem_iff]

namespace Inventory.Rearranges

variable {inventory mirrored : Inventory} (rearranges : mirrored.Rearranges inventory)

include rearranges

theorem lists {deployment : Deployment σ} {state : σ}
    (still : deployment.topology.frozen state = mirrored.still) :
    deployment.topology.Lists state inventory where
  ports filter := by
    refine ⟨_, ?_, rearranges.ports.filter filter.admits⟩
    exact congrFun (congrFun (congrArg Source.ports still) ()) filter
  bgpvpns filter := by
    refine ⟨_, ?_, rearranges.bgpvpns.filter filter.admits⟩
    exact congrFun (congrFun (congrArg Source.bgpvpns still) ()) filter

theorem alone_lists : mirrored.still.alone.topology.Lists () inventory := rearranges.lists rfl

theorem mem_connected_iff (routerId networkId : String) :
    networkId ∈ mirrored.connected routerId ↔ networkId ∈ inventory.connected routerId := by
  simp only [mem_connected, rearranges.ports.mem_iff]

theorem mem_reached_iff (bgpvpn : Bgpvpn) (networkId : String) :
    networkId ∈ mirrored.reached bgpvpn ↔ networkId ∈ inventory.reached bgpvpn := by
  simp only [mem_reached, rearranges.mem_connected_iff]

theorem isSome_router (routerId : String) :
    (mirrored.routers.find? fun router => router.id = routerId).isSome =
      (inventory.routers.find? fun router => router.id = routerId).isSome := by
  have known (records : List Router) :
      (records.find? fun router => router.id = routerId).isSome = true ↔
        routerId ∈ records.map Router.id := by simp [List.find?_isSome]
  rw [Bool.eq_iff_iff, known, known, rearranges.routers.mem_iff]

theorem direct_eq_nil_iff (networkId : String) (departing : Departing) :
    mirrored.direct networkId departing = [] ↔ inventory.direct networkId departing = [] := by
  simp only [List.eq_nil_iff_forall_not_mem, mem_direct, rearranges.bgpvpns.mem_iff]

variable (distinct : (inventory.bgpvpns.map Bgpvpn.id).Nodup)

include distinct

theorem record?_eq (bgpvpnId : String) :
    mirrored.record? bgpvpnId = inventory.record? bgpvpnId :=
  find?_perm rearranges.bgpvpns distinct bgpvpnId

variable {networkId : String} (undisputed : inventory.Undisputed networkId) (departing : Departing)

include undisputed

theorem owner_eq : mirrored.owner networkId departing = inventory.owner networkId departing := by
  have found := finds_effective rearranges.alone_lists distinct departing undisputed
  exact found.eq_of_answer (mirrored.answer_effective networkId departing)

theorem derived_eq :
    mirrored.derived networkId departing = inventory.derived networkId departing := by
  have found := finds_routerDerived rearranges.alone_lists distinct departing undisputed
  exact found.eq_of_answer (mirrored.answer_routerDerived networkId departing)

theorem ofRouter_eq {routerId : String} (reached : networkId ∈ inventory.connected routerId) :
    mirrored.ofRouter routerId departing = inventory.ofRouter routerId departing := by
  have found := finds_routerBgpvpn rearranges.alone_lists distinct departing undisputed reached
  exact found.eq_of_answer (mirrored.answer_routerBgpvpn routerId departing)

end Inventory.Rearranges

end EvpnMetadata.Topology

namespace EvpnMetadata.Reconcile

open Vpn EvpnMetadata.Topology Switch Lifecycle

structure Agenda.Alike (first second : Agenda) : Prop where
  ending : first.ending = second.ending
  mem_iff (assignment : Assignment) :
    assignment ∈ first.assignments ↔ assignment ∈ second.assignments

namespace Agenda

theorem Alike.refl (agenda : Agenda) : agenda.Alike agenda := ⟨rfl, fun _ => .rfl⟩

theorem alike_of_mem_iff {first second : List Assignment}
    (same : ∀ assignment, assignment ∈ first ↔ assignment ∈ second) :
    Alike { assignments := first } { assignments := second } := ⟨rfl, same⟩

theorem Alike.andThen {first second : Agenda} (before : Agenda) (alike : first.Alike second) :
    (before.andThen first).Alike (before.andThen second) := by
  rw [Agenda.andThen, Agenda.andThen]
  cases before.ending with
  | ok done =>
    refine ⟨alike.ending, fun assignment => ?_⟩
    rw [List.mem_append, List.mem_append, alike.mem_iff]
  | error fault => exact .refl before

end Agenda

end EvpnMetadata.Reconcile

namespace EvpnMetadata.Topology.Inventory.Rearranges

open Vpn Switch Lifecycle Reconcile

variable {inventory mirrored : Inventory} (rearranges : mirrored.Rearranges inventory)

include rearranges

theorem mem_unshielded_iff {departing : Departing} {owner owner' : String → Option Bgpvpn}
    {networks networks' : List String}
    (same : ∀ networkId, networkId ∈ networks' ↔ networkId ∈ networks)
    (owners : ∀ networkId ∈ networks, owner' networkId = owner networkId)
    (assignment : Assignment) :
    assignment ∈ mirrored.unshielded departing owner' networks' ↔
      assignment ∈ inventory.unshielded departing owner networks := by
  rw [mem_unshielded, mem_unshielded, same, rearranges.direct_eq_nil_iff]
  refine and_congr_right fun mem => ?_
  rw [owners _ mem]

theorem mem_extent_iff (bgpvpn : Bgpvpn) (assignment : Assignment) :
    assignment ∈ mirrored.extent bgpvpn ↔ assignment ∈ inventory.extent bgpvpn := by
  have unlisted (routerId networkId : String) :
      networkId ∈ mirrored.unlisted bgpvpn routerId ↔
        networkId ∈ inventory.unlisted bgpvpn routerId := by
    rw [Inventory.unlisted, Inventory.unlisted, List.mem_filter, List.mem_filter,
      rearranges.mem_connected_iff]
  simp only [extent, List.mem_append, List.mem_flatMap]
  refine or_congr_right (exists_congr fun routerId => and_congr_right fun _ => ?_)
  exact rearranges.mem_unshielded_iff (unlisted routerId) (fun _ _ => rfl) assignment

variable (keyed : inventory.Keyed)

include keyed

theorem agendaOfRecord_alike (bgpvpnId : String) {agenda agenda' : Bgpvpn → Agenda}
    (alike : ∀ bgpvpn, (agenda' bgpvpn).Alike (agenda bgpvpn)) :
    (mirrored.agendaOfRecord bgpvpnId agenda').Alike (inventory.agendaOfRecord bgpvpnId agenda) := by
  rw [agendaOfRecord, agendaOfRecord, rearranges.record?_eq keyed.bgpvpns]
  cases inventory.record? bgpvpnId with
  | none => exact .refl _
  | some bgpvpn => exact alike bgpvpn

theorem agendaOfRouterAssociation_alike (association : RouterAssociation) :
    (mirrored.agendaOfRouterAssociation association).Alike
      (inventory.agendaOfRouterAssociation association) := by
  refine rearranges.agendaOfRecord_alike keyed _ fun bgpvpn => .andThen _ ?_
  have known := rearranges.isSome_router association.routerId
  cases found : mirrored.routers.find? fun router => router.id = association.routerId <;>
    cases found' : inventory.routers.find? fun router => router.id = association.routerId
  case none.none => exact .refl _
  case some.some =>
    exact Agenda.alike_of_mem_iff (rearranges.mem_unshielded_iff
      (rearranges.mem_connected_iff association.routerId) fun _ _ => rfl)
  all_goals simp [found, found'] at known

/-- Where nobody disputes the networks that an event reaches, it calls for the same assignments. -/
theorem agenda_alike {event : Event}
    (undisputed : ∀ networkId, inventory.ReachedBy networkId event →
      inventory.Undisputed networkId)
    (attached : ∀ routerId port, event = .routerInterfaceCreated routerId port →
      port.networkId ∈ inventory.connected routerId) :
    (mirrored.agenda event).Alike (inventory.agenda event) := by
  cases event with
  | bgpvpnUpdate phase old new =>
    cases phase with
    | precommit => exact .refl _
    | postcommit =>
      rw [agenda, agenda]
      split
      · exact .refl _
      · exact Agenda.alike_of_mem_iff (rearranges.mem_extent_iff new)
  | bgpvpnDelete phase bgpvpn =>
    cases phase with
    | precommit =>
      refine Agenda.alike_of_mem_iff fun assignment => ?_
      simp only [List.mem_map, rearranges.mem_reached_iff]
      refine exists_congr fun networkId => and_congr_right fun reached => ?_
      rw [rearranges.owner_eq keyed.bgpvpns (undisputed networkId reached)]
    | postcommit => exact .refl _
  | networkAssociationCreate phase association =>
    cases phase with
    | precommit => exact .refl _
    | postcommit => exact rearranges.agendaOfRecord_alike keyed _ fun bgpvpn => .refl _
  | networkAssociationDelete phase association =>
    cases phase with
    | precommit =>
      rw [agenda, agenda, rearranges.owner_eq keyed.bgpvpns (undisputed _ rfl)]
      exact .refl _
    | postcommit => exact .refl _
  | routerAssociationCreate phase association =>
    cases phase with
    | precommit => exact rearranges.agendaOfRecord_alike keyed _ fun bgpvpn => .refl _
    | postcommit => exact rearranges.agendaOfRouterAssociation_alike keyed association
  | routerAssociationUpdate phase old association =>
    cases phase with
    | precommit => exact .refl _
    | postcommit => exact rearranges.agendaOfRouterAssociation_alike keyed association
  | routerAssociationDelete phase association =>
    cases phase with
    | precommit =>
      refine Agenda.alike_of_mem_iff (rearranges.mem_unshielded_iff
        (rearranges.mem_connected_iff association.routerId) fun networkId connected => ?_)
      exact rearranges.derived_eq keyed.bgpvpns (undisputed networkId connected) _
    | postcommit => exact .refl _
  | bgpvpnCreate phase bgpvpn => cases phase <;> exact .refl _
  | portAssociationCreate | portAssociationUpdate | portAssociationDelete => exact .refl _
  | routerInterfaceCreated routerId port =>
    rw [agenda, agenda, rearranges.ofRouter_eq keyed.bgpvpns (undisputed _ rfl) .nothing
      (attached routerId port rfl)]
    cases inventory.ofRouter routerId .nothing with
    | none => exact .refl _
    | some bgpvpn =>
      exact Agenda.alike_of_mem_iff
        (rearranges.mem_unshielded_iff (fun _ => .rfl) fun _ _ => rfl)
  | routerInterfaceDeleted routerId subnetId =>
    rw [agenda, agenda, find?_perm rearranges.subnets keyed.subnets]
    cases known : inventory.subnets.find? fun subnet => subnet.id = subnetId with
    | none => exact .refl _
    | some subnet =>
      simp only [rearranges.owner_eq keyed.bgpvpns (undisputed _ ⟨subnet, known, rfl⟩)]
      exact .refl _

end EvpnMetadata.Topology.Inventory.Rearranges

namespace EvpnMetadata.Topology

open Vpn Switch Lifecycle Reconcile

def Inventory.called (inventory : Inventory) (networkId : String) : Event → Option Bgpvpn
  | .bgpvpnUpdate _ _ new => some new
  | .bgpvpnDelete _ bgpvpn => inventory.owner networkId (.bgpvpn bgpvpn.id)
  | .networkAssociationCreate _ association => inventory.record? association.bgpvpnId
  | .networkAssociationDelete _ association =>
    inventory.owner networkId (.networkAssociation association.bgpvpnId networkId)
  | .routerAssociationCreate _ association | .routerAssociationUpdate _ _ association =>
    inventory.record? association.bgpvpnId
  | .routerAssociationDelete _ association =>
    inventory.derived networkId (.routerAssociation association.bgpvpnId association.routerId)
  | .routerInterfaceCreated routerId _ => inventory.ofRouter routerId .nothing
  | .routerInterfaceDeleted routerId subnetId =>
    inventory.owner networkId (.routerInterface routerId subnetId)
  | _ => none

theorem Inventory.Calls.owner_eq {inventory : Inventory} {event : Event} {assignment : Assignment}
    (calls : inventory.Calls event assignment) :
    assignment.owner = inventory.called assignment.networkId event := by
  cases calls with
  | associated known | joined known | rejoined known => exact known.symm
  | attached first => exact first.symm
  | _ => rfl

end EvpnMetadata.Topology

namespace EvpnMetadata.Reconcile

open Vpn EvpnMetadata.Topology Switch Lifecycle

/-- When the owner is decided by the network, only the members of the assignments matter. -/
theorem effects_congr (naming : Naming) {first second : List Assignment}
    (same : ∀ assignment, assignment ∈ first ↔ assignment ∈ second) (owner : String → Option Bgpvpn)
    (decided : ∀ assignment ∈ second, assignment.owner = owner assignment.networkId)
    (switches : Switches) : effects naming first switches = effects naming second switches := by
  have decided' : ∀ assignment ∈ first, assignment.owner = owner assignment.networkId :=
    fun assignment mem => decided assignment ((same assignment).mp mem)
  apply FiniteMap.ext_get?
  intro name
  by_cases here : ∃ assignment ∈ second, name = naming.logicalName assignment.networkId
  · obtain ⟨assignment, -, rfl⟩ := here
    rw [get?_effects naming owner decided, get?_effects naming owner decided']
    simp only [List.mem_map, same]
  · push Not at here
    rw [get?_effects_of_ne naming here,
      get?_effects_of_ne naming fun assignment mem => here assignment ((same assignment).mp mem)]

theorem delivers_still (naming : Naming) {deployment : Deployment σ} {memory : σ → Memory}
    (reliable : deployment.Reliable memory) {state : σ} {inventory : Inventory}
    (still : deployment.topology.frozen state = inventory.still) (event : Event) :
    let outcome := (delivery naming event).play deployment state
    let agenda := inventory.agenda event
    (outcome.result = .ok () ↔ agenda.ending = .ok () ∧
      ∀ assignment ∈ agenda.assignments,
        assignment.refusal? naming (memory state).switches = none) ∧
    (outcome.result = .ok () → (memory outcome.state).switches =
      effects naming agenda.assignments (memory state).switches) := by
  intro outcome agenda
  obtain ⟨result, ended, performed⟩ := delivery_settles naming reliable still event
  have unrefused : result = .ok () ↔ ∀ assignment ∈ agenda.assignments,
      assignment.refusal? naming (memory state).switches = none := by
    rw [performed.eq.1]
    exact verdict_eq_ok_iff
  cases result with
  | ok done =>
    refine ⟨?_, fun _ => performed.of_ok.1⟩
    rw [← unrefused, show outcome.result = agenda.ending from ended]
    exact (and_iff_left rfl).symm
  | error fault =>
    have refused : outcome.result ≠ .ok () := by
      rw [show outcome.result = .error fault from ended]
      exact nofun
    refine ⟨?_, fun handled => absurd handled refused⟩
    rw [← unrefused]
    exact iff_of_false refused fun both => nomatch both.2

section Twins

variable (naming : Naming) {first : Deployment σ} {second : Deployment τ} {memory : σ → Memory}
  {memory' : τ → Memory} (reliable : first.Reliable memory) (reliable' : second.Reliable memory')
  {state : σ} {state' : τ} {inventory mirrored : Inventory}
  (still : first.topology.frozen state = inventory.still)
  (still' : second.topology.frozen state' = mirrored.still)
  (rearranges : mirrored.Rearranges inventory) (keyed : inventory.Keyed)
  (switches : (memory state).switches = (memory' state').switches)

include reliable reliable' still still' rearranges keyed switches

/-- To converge a network that nobody disputes ends alike and leaves the same switches, also where
the network cannot be settled. -/
theorem converge_rearranged {networkId : String} (undisputed : inventory.Undisputed networkId)
    (departing : Departing) :
    let outcome := (converge naming networkId departing).play first state
    let outcome' := (converge naming networkId departing).play second state'
    outcome.result = outcome'.result ∧
      (memory outcome.state).switches = (memory' outcome'.state).switches := by
  intro outcome outcome'
  have follows (topology : Source Unit) : Follows naming topology _ _ :=
    .converge topology networkId departing
  obtain ⟨result, ended, performed⟩ := (follows inventory.still).performs reliable still
  obtain ⟨result', ended', performed'⟩ := (follows mirrored.still).performs reliable' still'
  rw [Inventory.plan_converge] at ended performed ended' performed'
  rw [rearranges.owner_eq keyed.bgpvpns undisputed, ← switches] at performed'
  obtain ⟨verdict, after⟩ := performed.eq
  obtain ⟨verdict', after'⟩ := performed'.eq
  rw [ended, ended', verdict, verdict', after, after']
  exact ⟨rfl, rfl⟩

/-- A sweep leaves the same row for a network that nobody disputes, whatever becomes of others. -/
theorem sweep_rearranged {networkId : String} (undisputed : inventory.Undisputed networkId) :
    (memory ((sweep naming).play first state).state).switches.get? (naming.logicalName networkId) =
      (memory' ((sweep naming).play second state').state).switches.get?
        (naming.logicalName networkId) := by
  have needed : mirrored.needed.contains networkId = inventory.needed.contains networkId := by
    rw [Bool.eq_iff_iff, List.contains_iff_mem, List.contains_iff_mem, Inventory.mem_needed,
      Inventory.mem_needed]
    simp only [rearranges.bgpvpns.mem_iff, rearranges.mem_connected_iff]
  rw [sweep_switches naming reliable, sweep_switches naming reliable', still, still',
    sweptSwitches, sweptSwitches, inventory.answer_needs, mirrored.answer_needs,
    FiniteMap.get?_map, FiniteMap.get?_map, sweptRow_logicalName, sweptRow_logicalName, needed,
    rearranges.owner_eq keyed.bgpvpns undisputed, switches]

/-- An event that reaches only networks that nobody disputes is handled on both or on neither, and
handling it leaves the same switches. -/
theorem delivery_rearranged {event : Event}
    (undisputed : ∀ networkId, inventory.ReachedBy networkId event →
      inventory.Undisputed networkId)
    (attached : ∀ routerId port, event = .routerInterfaceCreated routerId port →
      port.networkId ∈ inventory.connected routerId) :
    let outcome := (delivery naming event).play first state
    let outcome' := (delivery naming event).play second state'
    (outcome.result = .ok () ↔ outcome'.result = .ok ()) ∧
    (outcome.result = .ok () →
      (memory outcome.state).switches = (memory' outcome'.state).switches) := by
  intro outcome outcome'
  obtain ⟨handled, after⟩ := delivers_still naming reliable still event
  obtain ⟨handled', after'⟩ := delivers_still naming reliable' still' event
  have alike := rearranges.agenda_alike keyed undisputed attached
  have together : outcome.result = .ok () ↔ outcome'.result = .ok () := by
    rw [handled, handled', alike.ending, switches]
    simp only [alike.mem_iff]
  refine ⟨together, fun done => ?_⟩
  rw [after done, after' (together.mp done), switches]
  refine (effects_congr naming alike.mem_iff (inventory.called · event) ?_ _).symm
  intro assignment mem
  exact (Inventory.calls_of_mem mem).owner_eq

end Twins

end EvpnMetadata.Reconcile
