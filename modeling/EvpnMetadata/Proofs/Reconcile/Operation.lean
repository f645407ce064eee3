import EvpnMetadata.Proofs.Reconcile.Removal
import EvpnMetadata.Proofs.Topology.Wiring

/-! # Operations

A change of the inventory is announced, committed unless the announcement is refused, and reported.
A router interface is attached and detached without any announcement.
-/

namespace EvpnMetadata.Topology.Inventory

open Vpn Lifecycle Reconcile

variable (inventory : Inventory)

/-- Whatever an event is refused for, it is refused before any switch is touched. -/
theorem assignments_eq_nil_of_refused {event : Event} {fault : Fault}
    (refused : (inventory.agenda event).ending = .error fault) :
    (inventory.agenda event).assignments = [] := by
  have ofRecord (bgpvpnId : String) {agenda : Bgpvpn → Agenda}
      (h : ∀ bgpvpn, (agenda bgpvpn).ending = .error fault → (agenda bgpvpn).assignments = [])
      (refused : (inventory.agendaOfRecord bgpvpnId agenda).ending = .error fault) :
      (inventory.agendaOfRecord bgpvpnId agenda).assignments = [] := by
    rw [agendaOfRecord] at refused ⊢
    cases known : inventory.record? bgpvpnId with
    | none => rfl
    | some bgpvpn =>
      rw [known] at refused
      exact h bgpvpn refused
  have ofRouterAssociation (association : RouterAssociation)
      (refused : (inventory.agendaOfRouterAssociation association).ending = .error fault) :
      (inventory.agendaOfRouterAssociation association).assignments = [] := by
    refine ofRecord _ (fun bgpvpn refused => ?_) refused
    cases judged : bgpvpn.requireL3 with
    | error fault => rw [Agenda.andThen]
    | ok done =>
      rw [judged] at refused
      cases found : inventory.routers.find? fun router => router.id = association.routerId with
      | none => rfl
      | some router =>
        rw [found] at refused
        cases refused
  cases event with
  | bgpvpnUpdate phase old new =>
    cases phase with
    | precommit => rfl
    | postcommit =>
      rw [agenda] at refused ⊢
      split at refused <;> cases refused
  | networkAssociationCreate phase association =>
    cases phase with
    | precommit => rfl
    | postcommit => exact ofRecord _ (fun _ refused => by cases refused) refused
  | routerAssociationCreate phase association =>
    cases phase with
    | precommit => exact ofRecord _ (fun _ _ => rfl) refused
    | postcommit => exact ofRouterAssociation association refused
  | routerAssociationUpdate phase old association =>
    cases phase with
    | precommit => rfl
    | postcommit => exact ofRouterAssociation association refused
  | routerInterfaceCreated routerId port =>
    rw [agenda] at refused ⊢
    split at refused <;> cases refused
  | routerInterfaceDeleted routerId subnetId =>
    rw [agenda] at refused ⊢
    split at refused <;> cases refused
  | bgpvpnCreate phase | bgpvpnDelete phase | networkAssociationDelete phase
  | routerAssociationDelete phase =>
    cases phase with
    | precommit => first | rfl | cases refused
    | postcommit => rfl
  | portAssociationCreate | portAssociationUpdate | portAssociationDelete => rfl

end EvpnMetadata.Topology.Inventory

namespace EvpnMetadata.Reconcile

open Vpn EvpnMetadata.Topology Switch Lifecycle

inductive Operation where
  | createBgpvpn (bgpvpn : Bgpvpn)
  | updateBgpvpn (old new : Bgpvpn)
  | remove (removal : Removal)
  | associateNetwork (association : NetworkAssociation)
  | associateRouter (association : RouterAssociation)
  | createPortAssociation (association : PortAssociation)
  | updatePortAssociation (old new : PortAssociation)
  | deletePortAssociation (association : PortAssociation)
  | attachInterface (portId routerId networkId subnetId : String)
  | detachInterface (port : Port) (subnetId : String)
  deriving DecidableEq, Repr

namespace Operation

def announcement : Operation → Option Event
  | createBgpvpn bgpvpn => some (.bgpvpnCreate .precommit bgpvpn)
  | updateBgpvpn old new => some (.bgpvpnUpdate .precommit old new)
  | remove removal => some removal.event
  | associateNetwork association => some (.networkAssociationCreate .precommit association)
  | associateRouter association => some (.routerAssociationCreate .precommit association)
  | createPortAssociation association => some (.portAssociationCreate .precommit association)
  | updatePortAssociation old new => some (.portAssociationUpdate .precommit old new)
  | deletePortAssociation association => some (.portAssociationDelete .precommit association)
  | attachInterface .. | detachInterface .. => none

/-- The change itself.  Port associations are not kept in an inventory. -/
def commit (inventory : Inventory) : Operation → Inventory
  | createBgpvpn bgpvpn => inventory.putBgpvpn bgpvpn
  | updateBgpvpn _ new => inventory.putBgpvpn new
  | remove removal => removal.apply inventory
  | associateNetwork association =>
    inventory.associateNetwork association.bgpvpnId association.networkId
  | associateRouter association =>
    inventory.associateRouter association.bgpvpnId association.routerId
  | createPortAssociation _ | updatePortAssociation _ _ | deletePortAssociation _ => inventory
  | attachInterface portId routerId networkId subnetId =>
    inventory.attachThrough portId routerId networkId subnetId
  | detachInterface port _ => inventory.removePort port.id

def notice : Operation → Event
  | createBgpvpn bgpvpn => .bgpvpnCreate .postcommit bgpvpn
  | updateBgpvpn old new => .bgpvpnUpdate .postcommit old new
  | remove removal => removal.notice
  | associateNetwork association => .networkAssociationCreate .postcommit association
  | associateRouter association => .routerAssociationCreate .postcommit association
  | createPortAssociation association => .portAssociationCreate .postcommit association
  | updatePortAssociation old new => .portAssociationUpdate .postcommit old new
  | deletePortAssociation association => .portAssociationDelete .postcommit association
  | attachInterface portId routerId networkId subnetId =>
    .routerInterfaceCreated routerId (.routerInterface portId routerId networkId subnetId)
  | detachInterface port subnetId => .routerInterfaceDeleted port.deviceId subnetId

/-- What a caller sees to.  A BGPVPN is created under a fresh id and without associations, and is
updated and deleted as it is recorded.  A router is attached at most once to a subnet, which stays
on its network. -/
def Admissible (inventory : Inventory) : Operation → Prop
  | createBgpvpn bgpvpn =>
    bgpvpn.id ∉ inventory.bgpvpns.map Bgpvpn.id ∧ bgpvpn.networks = [] ∧ bgpvpn.routers = []
  | updateBgpvpn old new =>
    inventory.record? new.id = some old ∧ new.networks = old.networks ∧ new.routers = old.routers
  | remove (.bgpvpn record) => inventory.record? record.id = some record
  | attachInterface portId routerId networkId subnetId =>
    portId ∉ inventory.ports.map Port.id ∧
    (∀ subnet ∈ inventory.subnets, subnet.id = subnetId → subnet.networkId = networkId) ∧
    ∀ port ∈ inventory.ports, port.isRouterInterface = true → port.deviceId = routerId →
      port.networkId = networkId → port.onSubnet subnetId = false
  | detachInterface port subnetId =>
    port ∈ inventory.ports ∧ port.isRouterInterface = true ∧ subnetId ∈ port.subnetIds
  | _ => True

instance (inventory : Inventory) : DecidablePred (Admissible inventory)
  | createBgpvpn _ | attachInterface .. | detachInterface .. => inferInstanceAs (Decidable (_ ∧ _))
  | updateBgpvpn _ _ => inferInstanceAs (Decidable (_ ∧ _))
  | remove (.bgpvpn _) => inferInstanceAs (Decidable (_ = _))
  | remove (.networkAssociation _) | remove (.routerAssociation _) | associateNetwork _
  | associateRouter _ | createPortAssociation _ | updatePortAssociation _ _
  | deletePortAssociation _ => inferInstanceAs (Decidable True)

def perform (naming : Naming) (operation : Operation) (site : Site) : Site :=
  let announced : Outcome Site (Except Fault Unit) := match operation.announcement with
    | none => { result := .ok (), state := site }
    | some event => (delivery naming event).play Site.deployment site
  match announced.result with
  | .error _ => announced.state
  | .ok () =>
    let committed : Site :=
      { announced.state with inventory := operation.commit announced.state.inventory }
    ((delivery naming operation.notice).play Site.deployment committed).state

def preparation (inventory : Inventory) (operation : Operation) : Agenda :=
  match operation.announcement with
  | none => {}
  | some event => inventory.agenda event

def assignments (inventory : Inventory) (operation : Operation) : List Assignment :=
  (operation.preparation inventory).assignments ++
    ((operation.commit inventory).agenda operation.notice).assignments

end Operation

/-- An event whose owners can all be published is delivered unless it is refused. -/
theorem delivers_publishable (naming : Naming) (event : Event) (site : Site)
    (publishable : ∀ assignment ∈ (site.inventory.agenda event).assignments,
      ∃ attributes, Bag.ofOwner assignment.owner = .ok attributes) :
    let outcome := (delivery naming event).play Site.deployment site
    let agenda := site.inventory.agenda event
    outcome.result = agenda.ending ∧ outcome.state.inventory = site.inventory ∧
      outcome.state.switches.switches =
        effects naming agenda.assignments site.switches.switches := by
  intro outcome agenda
  obtain ⟨settled, ended, performed⟩ := delivers naming event site
  have unrefused : ∀ assignment ∈ agenda.assignments,
      assignment.refusal? naming site.switches.switches = none := by
    intro assignment listed
    obtain ⟨attributes, good⟩ := publishable assignment listed
    rw [Assignment.refusal?, good]
    split <;> rfl
  obtain ⟨rfl, after⟩ := performed.eq_effects unrefused
  exact ⟨ended, Site.inventory_play _ site, after⟩

namespace Operation

variable (naming : Naming) {operation : Operation} {site : Site}

theorem perform_of_refused {fault : Fault}
    (refused : (operation.preparation site.inventory).ending = .error fault) :
    (operation.perform naming site).inventory = site.inventory ∧
      (operation.perform naming site).switches.switches = site.switches.switches := by
  rw [preparation] at refused
  rw [perform]
  cases announced : operation.announcement with
  | none =>
    rw [announced] at refused
    cases refused
  | some event =>
    rw [announced] at refused
    have untouched := site.inventory.assignments_eq_nil_of_refused refused
    obtain ⟨ended, kept, after⟩ := delivers_publishable naming event site
      (untouched ▸ fun _ listed => by cases listed)
    rw [refused] at ended
    rw [untouched] at after
    simp only [ended]
    exact ⟨kept, after⟩

theorem perform_of_accepted
    (accepted : (operation.preparation site.inventory).ending = .ok ())
    (publishable : ∀ assignment ∈ operation.assignments site.inventory,
      ∃ attributes, Bag.ofOwner assignment.owner = .ok attributes) :
    (operation.perform naming site).inventory = operation.commit site.inventory ∧
      (operation.perform naming site).switches.switches =
        effects naming (operation.assignments site.inventory) site.switches.switches := by
  rw [assignments] at publishable ⊢
  rw [effects_append]
  have reported (announced : Site) (kept : announced.inventory = site.inventory) :=
    delivers_publishable naming operation.notice
      { announced with inventory := operation.commit announced.inventory }
      (kept ▸ fun assignment listed => publishable assignment (List.mem_append_right _ listed))
  rw [preparation] at accepted publishable ⊢
  rw [perform]
  cases announced : operation.announcement with
  | none =>
    obtain ⟨_, kept, after⟩ := reported site rfl
    exact ⟨kept, after⟩
  | some event =>
    rw [announced] at accepted publishable
    obtain ⟨ended, kept, after⟩ := delivers_publishable naming event site
      fun assignment listed => publishable assignment (List.mem_append_left _ listed)
    obtain ⟨_, kept', after'⟩ := reported _ kept
    rw [accepted] at ended
    simp only [ended]
    refine ⟨kept'.trans (congrArg (commit · operation) kept), after'.trans ?_⟩
    change effects naming ((operation.commit _).agenda _).assignments _ = _
    rw [kept, after]

end Operation

end EvpnMetadata.Reconcile
