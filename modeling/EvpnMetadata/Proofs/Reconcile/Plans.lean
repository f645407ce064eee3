import EvpnMetadata.Proofs.Reconcile.Following
import EvpnMetadata.Proofs.Reconcile.Ownership

/-! # What events call for on an inventory

On an inventory the agenda of every event is a function of its records.  All faults come before the
first assignment, and the owners of the assignments are owners in the inventory, perhaps without an
object that is about to leave.
-/

namespace EvpnMetadata.Topology.Inventory

open Vpn Switch Lifecycle Reconcile

variable (inventory : Inventory)

/-- Assignments of the networks without a direct association. -/
def unshielded (departing : Departing) (owner : String → Option Bgpvpn) (networks : List String) :
    List Assignment :=
  (networks.filter fun networkId => (inventory.direct networkId departing).isEmpty).map
    fun networkId => ⟨networkId, owner networkId⟩

theorem unshielded_singleton (departing : Departing) (owner : String → Option Bgpvpn)
    (networkId : String) :
    inventory.unshielded departing owner [networkId] =
      if (inventory.direct networkId departing).isEmpty then [⟨networkId, owner networkId⟩]
      else [] := by
  rw [unshielded, List.filter_cons]
  split <;> rfl

def unlisted (bgpvpn : Bgpvpn) (routerId : String) : List String :=
  (inventory.connected routerId).filter fun networkId => !bgpvpn.hasNetwork networkId

/-- A changed BGPVPN, on every network that it lists or that only its routers reach. -/
def extent (bgpvpn : Bgpvpn) : List Assignment :=
  bgpvpn.networks.map (fun networkId => ⟨networkId, some bgpvpn⟩) ++
    bgpvpn.routers.flatMap fun routerId =>
      inventory.unshielded .nothing (fun _ => some bgpvpn) (inventory.unlisted bgpvpn routerId)

def agendaOfRecord (bgpvpnId : String) (agenda : Bgpvpn → Agenda) : Agenda :=
  match inventory.record? bgpvpnId with
  | some bgpvpn => agenda bgpvpn
  | none => { ending := .error (.unknownBgpvpn bgpvpnId) }

def agendaOfRouterAssociation (association : RouterAssociation) : Agenda :=
  inventory.agendaOfRecord association.bgpvpnId fun bgpvpn =>
    Agenda.andThen { ending := bgpvpn.requireL3 }
      (match inventory.routers.find? fun router => router.id = association.routerId with
        | none => {}
        | some _ => {
            assignments := inventory.unshielded .nothing (fun _ => some bgpvpn)
              (inventory.connected association.routerId) })

def agenda : Event → Agenda
  | .bgpvpnCreate .precommit bgpvpn => { ending := discard bgpvpn.accept }
  | .bgpvpnUpdate .precommit old new => { ending := (Revision.mk old new).accept }
  | .bgpvpnUpdate .postcommit old new =>
    if (Revision.mk old new).isCosmetic then {} else { assignments := inventory.extent new }
  | .bgpvpnDelete .precommit bgpvpn => {
      assignments := (inventory.reached bgpvpn).map fun networkId =>
        ⟨networkId, inventory.owner networkId (.bgpvpn bgpvpn.id)⟩ }
  | .networkAssociationCreate .postcommit association =>
    inventory.agendaOfRecord association.bgpvpnId fun bgpvpn =>
      { assignments := [⟨association.networkId, some bgpvpn⟩] }
  | .networkAssociationDelete .precommit association => {
      assignments := [⟨association.networkId, inventory.owner association.networkId
        (.networkAssociation association.bgpvpnId association.networkId)⟩] }
  | .routerAssociationCreate .precommit association =>
    inventory.agendaOfRecord association.bgpvpnId fun bgpvpn => { ending := bgpvpn.requireL3 }
  | .routerAssociationCreate .postcommit association =>
    inventory.agendaOfRouterAssociation association
  | .routerAssociationUpdate .postcommit _ association =>
    inventory.agendaOfRouterAssociation association
  | .routerAssociationDelete .precommit association =>
    let departing := .routerAssociation association.bgpvpnId association.routerId
    { assignments := inventory.unshielded departing
        (fun networkId => inventory.derived networkId departing)
        (inventory.connected association.routerId) }
  | .routerInterfaceCreated routerId port =>
    match inventory.ofRouter routerId .nothing with
    | none => {}
    | some bgpvpn => {
        assignments := inventory.unshielded .nothing (fun _ => some bgpvpn) [port.networkId] }
  | .routerInterfaceDeleted routerId subnetId =>
    match inventory.subnets.find? fun subnet => subnet.id = subnetId with
    | none => {}
    | some subnet => {
        assignments := [⟨subnet.networkId,
          inventory.owner subnet.networkId (.routerInterface routerId subnetId)⟩] }
  | _ => {}

theorem each_assignments (items : List β) (assignments : β → List Assignment) :
    Agenda.each items (fun item => { assignments := assignments item }) =
      { assignments := items.flatMap assignments } := by
  induction items with
  | nil => rfl
  | cons item rest ih => exact congrArg (Agenda.andThen { assignments := assignments item }) ih

/-- Assignments one by one, where each may be left out. -/
theorem flatMap_ite (networks : List String) (keep : String → Bool)
    (owner : String → Option Bgpvpn) :
    (networks.flatMap fun networkId =>
      if keep networkId then [Assignment.mk networkId (owner networkId)] else []) =
      (networks.filter keep).map fun networkId => ⟨networkId, owner networkId⟩ := by
  induction networks with
  | nil => rfl
  | cons head rest ih =>
    rw [List.flatMap_cons, ih, List.filter_cons]
    split <;> rfl

theorem plan_converge (networkId : String) (departing : Departing) :
    Plan.converge inventory.still networkId departing =
      { assignments := [⟨networkId, inventory.owner networkId departing⟩] } := by
  rw [Plan.converge, answer_effective]
  rfl

theorem plan_convergeThroughRouters (networkId : String) (departing : Departing) :
    Plan.convergeThroughRouters inventory.still networkId departing =
      { assignments := if (inventory.direct networkId departing).isEmpty then
          [⟨networkId, inventory.derived networkId departing⟩] else [] } := by
  rw [Plan.convergeThroughRouters, answer_directBgpvpns, answer_routerDerived, Agenda.asking]
  split <;> rfl

theorem plan_publishThroughRouter (networkId : String) (bgpvpn : Bgpvpn) :
    Plan.publishThroughRouter inventory.still networkId bgpvpn =
      { assignments := if (inventory.direct networkId .nothing).isEmpty then
          [⟨networkId, some bgpvpn⟩] else [] } := by
  rw [Plan.publishThroughRouter, answer_directBgpvpns, Agenda.asking]
  split <;> rfl

theorem asking_resolveBgpvpn (bgpvpnId : String) (agenda : Bgpvpn → Agenda) :
    Agenda.asking ((resolveBgpvpn bgpvpnId).answer inventory.still) agenda =
      inventory.agendaOfRecord bgpvpnId agenda := by
  rw [answer_resolveBgpvpn, agendaOfRecord]
  cases inventory.record? bgpvpnId <;> rfl

theorem plan_afterBgpvpnUpdate (old new : Bgpvpn) :
    Plan.afterBgpvpnUpdate inventory.still old new =
      inventory.agenda (.bgpvpnUpdate .postcommit old new) := by
  have reaching (routerId : String) :
      (Agenda.asking ((connectedNetworks routerId).answer inventory.still) fun networks =>
        .each networks fun networkId =>
          if new.hasNetwork networkId then {}
          else Plan.publishThroughRouter inventory.still networkId new) =
      { assignments := inventory.unshielded .nothing (fun _ => some new)
          (inventory.unlisted new routerId) } := by
    rw [answer_connectedNetworks, unshielded, unlisted, List.filter_filter, ← flatMap_ite,
      ← each_assignments, Agenda.asking]
    congr 1
    funext networkId
    rw [plan_publishThroughRouter]
    cases new.hasNetwork networkId with
    | true =>
      rw [Bool.not_true, Bool.and_false]
      rfl
    | false =>
      rw [Bool.not_false, Bool.and_true]
      rfl
  rw [Plan.afterBgpvpnUpdate, agenda]
  split
  · rfl
  · rw [each_assignments]
    simp only [reaching, each_assignments, extent, List.map_eq_flatMap]
    rfl

theorem plan_afterRouterAssociation (association : RouterAssociation) :
    Plan.afterRouterAssociation inventory.still association =
      inventory.agendaOfRouterAssociation association := by
  have recorded : (Attempt.router association.routerId).answer inventory.still =
      .ok (inventory.routers.find? fun router => router.id = association.routerId) := rfl
  rw [Plan.afterRouterAssociation, asking_resolveBgpvpn, agendaOfRouterAssociation, recorded]
  congr 1
  funext bgpvpn
  congr 1
  cases inventory.routers.find? fun router => router.id = association.routerId with
  | none => rfl
  | some router =>
    rw [unshielded, ← flatMap_ite, ← each_assignments, answer_connectedNetworks]
    simp only [Agenda.asking, plan_publishThroughRouter]

/-- On an inventory, every hook does what the records call for. -/
theorem plan_still (event : Event) : plan inventory.still event = inventory.agenda event := by
  cases event with
  | bgpvpnUpdate phase old new =>
    cases phase with
    | precommit => rfl
    | postcommit => exact inventory.plan_afterBgpvpnUpdate old new
  | bgpvpnDelete phase bgpvpn =>
    cases phase with
    | precommit =>
      rw [plan, answer_reachedNetworks, agenda, List.map_eq_flatMap, ← each_assignments]
      simp only [Agenda.asking, plan_converge]
    | postcommit => rfl
  | networkAssociationCreate phase association =>
    cases phase with
    | precommit => rfl
    | postcommit => exact inventory.asking_resolveBgpvpn _ _
  | networkAssociationDelete phase association =>
    cases phase with
    | precommit => exact inventory.plan_converge _ _
    | postcommit => rfl
  | routerAssociationCreate phase association =>
    cases phase with
    | precommit => exact inventory.asking_resolveBgpvpn _ _
    | postcommit => exact inventory.plan_afterRouterAssociation association
  | routerAssociationUpdate phase old association =>
    cases phase with
    | precommit => rfl
    | postcommit => exact inventory.plan_afterRouterAssociation association
  | routerAssociationDelete phase association =>
    cases phase with
    | precommit =>
      rw [plan, answer_connectedNetworks, agenda, unshielded, ← flatMap_ite, ← each_assignments]
      simp only [Agenda.asking, plan_convergeThroughRouters]
    | postcommit => rfl
  | bgpvpnCreate phase bgpvpn => cases phase <;> rfl
  | portAssociationCreate | portAssociationUpdate | portAssociationDelete => rfl
  | routerInterfaceCreated routerId port =>
    rw [plan, answer_routerBgpvpn, agenda]
    cases inventory.ofRouter routerId .nothing with
    | none => rfl
    | some bgpvpn =>
      change Plan.publishThroughRouter inventory.still port.networkId bgpvpn =
        { assignments := inventory.unshielded .nothing _ [port.networkId] }
      rw [unshielded_singleton]
      exact inventory.plan_publishThroughRouter port.networkId bgpvpn
  | routerInterfaceDeleted routerId subnetId =>
    have recorded : (Attempt.subnet subnetId).answer inventory.still =
      .ok (inventory.subnets.find? fun subnet => subnet.id = subnetId) := rfl
    rw [plan, agenda, recorded]
    cases inventory.subnets.find? fun subnet => subnet.id = subnetId with
    | none => rfl
    | some subnet => exact inventory.plan_converge subnet.networkId _

end EvpnMetadata.Topology.Inventory

namespace EvpnMetadata.Reconcile

open Vpn EvpnMetadata.Topology Switch Lifecycle

theorem effective_play (site : Site) (networkId : String) (departing : Departing) :
    ((effective networkId departing).play Site.deployment site).result =
      .ok (site.inventory.owner networkId departing) := by
  have asked := (isInquiry_effective networkId departing).quiet_play Site.deployment site
  exact (congrArg Outcome.result asked).trans (site.inventory.answer_effective networkId departing)

/-- A delivery over an inventory settles the agenda of its event, as far as nothing fails. -/
theorem delivery_settles (naming : Naming) {deployment : Deployment σ} {memory : σ → Memory}
    {mayAbort : Prop} (h : deployment.InMemory memory mayAbort) {state : σ} {inventory : Inventory}
    (still : deployment.topology.frozen state = inventory.still) (event : Event) :
    let outcome := (delivery naming event).play deployment state
    let agenda := inventory.agenda event
    ∃ result : Except Fault Unit, outcome.result = (do result; agenda.ending) ∧
      Performs naming mayAbort agenda.assignments (memory state).switches result
        (memory outcome.state).switches outcome.transactions := by
  have performed := delivery_performs naming h event state
  rw [still, inventory.plan_still] at performed
  exact performed

theorem delivers (naming : Naming) (event : Event) (site : Site) :
    let outcome := (delivery naming event).play Site.deployment site
    let agenda := site.inventory.agenda event
    ∃ result : Except Fault Unit, outcome.result = (do result; agenda.ending) ∧
      Performs naming False agenda.assignments site.switches.switches result
        outcome.state.switches.switches outcome.transactions :=
  delivery_settles naming Deployment.site_reliable rfl event

theorem effects_of_handled (naming : Naming) {event : Event} {site : Site}
    (handled : ((delivery naming event).play Site.deployment site).result = .ok ()) :
    let assignments := (site.inventory.agenda event).assignments
    ((delivery naming event).play Site.deployment site).state.switches.switches =
        effects naming assignments site.switches.switches ∧
      ∀ assignment ∈ assignments,
        assignment.refusal? naming site.switches.switches = none := by
  obtain ⟨result, ended, performed⟩ := delivers naming event site
  rw [handled] at ended
  cases result with
  | ok done => exact performed.of_ok
  | error fault => cases ended

/-- Two sites with one agenda and the same switches handle an event alike. -/
theorem delivery_congr (naming : Naming) {event : Event} {first second : Site}
    (agenda : first.inventory.agenda event = second.inventory.agenda event)
    (switches : first.switches.switches = second.switches.switches) :
    ((delivery naming event).play Site.deployment first).result =
        ((delivery naming event).play Site.deployment second).result ∧
      ((delivery naming event).play Site.deployment first).state.switches.switches =
        ((delivery naming event).play Site.deployment second).state.switches.switches := by
  obtain ⟨result, ended, performed⟩ := delivers naming event first
  obtain ⟨result', ended', performed'⟩ := delivers naming event second
  rw [agenda, switches] at performed
  obtain ⟨verdict, after⟩ := performed.eq
  obtain ⟨verdict', after'⟩ := performed'.eq
  rw [ended, ended', agenda, verdict, verdict', after, after']
  exact ⟨rfl, rfl⟩

end EvpnMetadata.Reconcile
