import EvpnMetadata.Proofs.Reconcile.Candidates
import EvpnMetadata.Proofs.Reconcile.Publishing

/-! # What an event calls for

Each way in which an event can call for an assignment says on whose account: which network is
reached, whether it has a direct association, and who is put on it.  What all assignments of an
event have in common is read off from these ways.
-/

namespace EvpnMetadata.Topology.Inventory

open Vpn Switch Lifecycle Reconcile

variable (inventory : Inventory)

inductive Calls : Event → Assignment → Prop where
  | listed {old new : Bgpvpn} {networkId : String} (own : networkId ∈ new.networks) :
    Calls (.bgpvpnUpdate .postcommit old new) ⟨networkId, some new⟩
  | routed {old new : Bgpvpn} {routerId networkId : String} (own : routerId ∈ new.routers)
    (connected : networkId ∈ inventory.connected routerId) (unlisted : networkId ∉ new.networks)
    (free : inventory.direct networkId .nothing = []) :
    Calls (.bgpvpnUpdate .postcommit old new) ⟨networkId, some new⟩
  | deserted {bgpvpn : Bgpvpn} {networkId : String}
    (reached : networkId ∈ inventory.reached bgpvpn) :
    Calls (.bgpvpnDelete .precommit bgpvpn)
      ⟨networkId, inventory.owner networkId (.bgpvpn bgpvpn.id)⟩
  | associated {association : NetworkAssociation} {bgpvpn : Bgpvpn}
    (known : inventory.record? association.bgpvpnId = some bgpvpn) :
    Calls (.networkAssociationCreate .postcommit association) ⟨association.networkId, some bgpvpn⟩
  | dissociated {association : NetworkAssociation} :
    Calls (.networkAssociationDelete .precommit association)
      ⟨association.networkId, inventory.owner association.networkId
        (.networkAssociation association.bgpvpnId association.networkId)⟩
  | joined {association : RouterAssociation} {bgpvpn : Bgpvpn} {networkId : String}
    (known : inventory.record? association.bgpvpnId = some bgpvpn)
    (connected : networkId ∈ inventory.connected association.routerId)
    (free : inventory.direct networkId .nothing = []) :
    Calls (.routerAssociationCreate .postcommit association) ⟨networkId, some bgpvpn⟩
  | rejoined {old association : RouterAssociation} {bgpvpn : Bgpvpn} {networkId : String}
    (known : inventory.record? association.bgpvpnId = some bgpvpn)
    (connected : networkId ∈ inventory.connected association.routerId)
    (free : inventory.direct networkId .nothing = []) :
    Calls (.routerAssociationUpdate .postcommit old association) ⟨networkId, some bgpvpn⟩
  | parted {association : RouterAssociation} {networkId : String}
    (connected : networkId ∈ inventory.connected association.routerId)
    (free : inventory.direct networkId
      (.routerAssociation association.bgpvpnId association.routerId) = []) :
    Calls (.routerAssociationDelete .precommit association)
      ⟨networkId, inventory.derived networkId
        (.routerAssociation association.bgpvpnId association.routerId)⟩
  | attached {routerId : String} {port : Port} {bgpvpn : Bgpvpn}
    (first : inventory.ofRouter routerId .nothing = some bgpvpn)
    (free : inventory.direct port.networkId .nothing = []) :
    Calls (.routerInterfaceCreated routerId port) ⟨port.networkId, some bgpvpn⟩
  | detached {routerId subnetId : String} {subnet : Subnet}
    (known : inventory.subnets.find? (fun subnet => subnet.id = subnetId) = some subnet) :
    Calls (.routerInterfaceDeleted routerId subnetId)
      ⟨subnet.networkId, inventory.owner subnet.networkId (.routerInterface routerId subnetId)⟩

/-- The object of an event reaches a network: as its own network, by listing it, or through an
interface of a router that it lists. -/
def ReachedBy (networkId : String) : Event → Prop
  | .bgpvpnCreate _ bgpvpn | .bgpvpnUpdate _ _ bgpvpn | .bgpvpnDelete _ bgpvpn =>
    networkId ∈ inventory.reached bgpvpn
  | .networkAssociationCreate _ association | .networkAssociationDelete _ association =>
    networkId = association.networkId
  | .routerAssociationCreate _ association | .routerAssociationUpdate _ _ association
  | .routerAssociationDelete _ association => networkId ∈ inventory.connected association.routerId
  | .routerInterfaceCreated _ port => networkId = port.networkId
  | .routerInterfaceDeleted _ subnetId =>
    ∃ subnet, inventory.subnets.find? (fun subnet => subnet.id = subnetId) = some subnet ∧
      networkId = subnet.networkId
  | .portAssociationCreate .. | .portAssociationUpdate .. | .portAssociationDelete .. => False

variable {inventory} {event : Event} {assignment : Assignment}

theorem exists_of_mem_unshielded {departing : Departing} {owner : String → Option Bgpvpn}
    {networks : List String} (mem : assignment ∈ inventory.unshielded departing owner networks) :
    ∃ networkId ∈ networks, inventory.direct networkId departing = [] ∧
      assignment = ⟨networkId, owner networkId⟩ := by
  obtain ⟨networkId, chosen, rfl⟩ := List.mem_map.mp mem
  obtain ⟨listed, free⟩ := List.mem_filter.mp chosen
  exact ⟨networkId, listed, List.isEmpty_iff.mp free, rfl⟩

theorem calls_of_mem_extent {old new : Bgpvpn} (mem : assignment ∈ inventory.extent new) :
    inventory.Calls (.bgpvpnUpdate .postcommit old new) assignment := by
  rcases List.mem_append.mp mem with listed | behind
  · obtain ⟨networkId, own, rfl⟩ := List.mem_map.mp listed
    exact .listed own
  · obtain ⟨routerId, own, unshielded⟩ := List.mem_flatMap.mp behind
    obtain ⟨networkId, reached, free, rfl⟩ := exists_of_mem_unshielded unshielded
    obtain ⟨connected, unlisted⟩ := List.mem_filter.mp reached
    exact .routed own connected (by simpa [Bgpvpn.hasNetwork] using unlisted) free

/-- A router association that is not refused, and whose router is recorded, is settled on the
networks of the router that nobody is associated with directly. -/
theorem assignments_routerAssociation (inventory : Inventory) (association : RouterAssociation) :
    (inventory.agendaOfRouterAssociation association).assignments = [] ∨
      ∃ bgpvpn, inventory.record? association.bgpvpnId = some bgpvpn ∧
        (inventory.agendaOfRouterAssociation association).assignments =
          inventory.unshielded .nothing (fun _ => some bgpvpn)
            (inventory.connected association.routerId) := by
  rw [agendaOfRouterAssociation, agendaOfRecord]
  cases inventory.record? association.bgpvpnId with
  | none => exact .inl rfl
  | some bgpvpn =>
    cases judged : bgpvpn.requireL3 with
    | error fault => exact .inl (by simp only [judged, Agenda.andThen])
    | ok done =>
      simp only [judged, Agenda.andThen, List.nil_append]
      split
      · exact .inl rfl
      · exact .inr ⟨bgpvpn, rfl, rfl⟩

theorem of_mem_routerAssociation {association : RouterAssociation}
    (mem : assignment ∈ (inventory.agendaOfRouterAssociation association).assignments) :
    ∃ bgpvpn, inventory.record? association.bgpvpnId = some bgpvpn ∧
      ∃ networkId ∈ inventory.connected association.routerId,
        inventory.direct networkId .nothing = [] ∧ assignment = ⟨networkId, some bgpvpn⟩ := by
  rcases inventory.assignments_routerAssociation association with none | ⟨bgpvpn, known, all⟩
  · rw [none] at mem
    cases mem
  · exact ⟨bgpvpn, known, exists_of_mem_unshielded (all ▸ mem)⟩

/-- Whatever is on the agenda of an event, the event calls for it in one of these ways. -/
theorem calls_of_mem (mem : assignment ∈ (inventory.agenda event).assignments) :
    inventory.Calls event assignment := by
  cases event with
  | bgpvpnUpdate phase old new =>
    cases phase with
    | precommit => cases mem
    | postcommit =>
      rw [agenda] at mem
      split at mem
      · cases mem
      · exact calls_of_mem_extent mem
  | bgpvpnDelete phase bgpvpn =>
    cases phase with
    | precommit =>
      obtain ⟨networkId, reached, rfl⟩ := List.mem_map.mp mem
      exact .deserted reached
    | postcommit => cases mem
  | networkAssociationCreate phase association =>
    cases phase with
    | precommit => cases mem
    | postcommit =>
      rw [agenda, agendaOfRecord] at mem
      split at mem
      · next bgpvpn known =>
        obtain rfl := List.mem_singleton.mp mem
        exact .associated known
      · cases mem
  | networkAssociationDelete phase association =>
    cases phase with
    | precommit =>
      obtain rfl := List.mem_singleton.mp mem
      exact .dissociated
    | postcommit => cases mem
  | routerAssociationCreate phase association =>
    cases phase with
    | precommit =>
      rw [agenda, agendaOfRecord] at mem
      split at mem <;> cases mem
    | postcommit =>
      obtain ⟨bgpvpn, known, networkId, connected, free, rfl⟩ := of_mem_routerAssociation mem
      exact .joined known connected free
  | routerAssociationUpdate phase old association =>
    cases phase with
    | precommit => cases mem
    | postcommit =>
      obtain ⟨bgpvpn, known, networkId, connected, free, rfl⟩ := of_mem_routerAssociation mem
      exact .rejoined known connected free
  | routerAssociationDelete phase association =>
    cases phase with
    | precommit =>
      obtain ⟨networkId, connected, free, rfl⟩ := exists_of_mem_unshielded mem
      exact .parted connected free
    | postcommit => cases mem
  | routerInterfaceCreated routerId port =>
    rw [agenda] at mem
    split at mem
    · cases mem
    · next bgpvpn first =>
      obtain ⟨networkId, own, free, rfl⟩ := exists_of_mem_unshielded mem
      obtain rfl := List.mem_singleton.mp own
      exact .attached first free
  | routerInterfaceDeleted routerId subnetId =>
    rw [agenda] at mem
    split at mem
    · cases mem
    · next subnet known =>
      obtain rfl := List.mem_singleton.mp mem
      exact .detached known
  | bgpvpnCreate phase => cases phase <;> cases mem
  | portAssociationCreate | portAssociationUpdate | portAssociationDelete => cases mem

theorem Calls.reachedBy (calls : inventory.Calls event assignment) :
    inventory.ReachedBy assignment.networkId event := by
  cases calls with
  | listed own => exact mem_reached.mpr (.inl own)
  | routed own connected => exact mem_reached.mpr (.inr ⟨_, own, connected⟩)
  | deserted reached => exact reached
  | associated | dissociated | attached => exact rfl
  | joined _ connected | rejoined _ connected | parted connected => exact connected
  | detached known => exact ⟨_, known, rfl⟩

theorem mem_of_owner {networkId : String} {departing : Departing} {bgpvpn : Bgpvpn}
    (owned : inventory.owner networkId departing = some bgpvpn) : bgpvpn ∈ inventory.bgpvpns := by
  rcases Option.or_eq_some_iff.mp owned with direct | ⟨_, derived⟩
  · exact (mem_direct.mp (List.mem_of_head? direct)).1
  · exact (routed_of_derived derived).1

/-- Who is put on a network is recorded, or carried by the event. -/
theorem Calls.mem_of_owner (calls : inventory.Calls event assignment) {bgpvpn : Bgpvpn}
    (owned : assignment.owner = some bgpvpn) :
    bgpvpn ∈ inventory.bgpvpns ∨ bgpvpn ∈ event.snapshots := by
  cases calls with
  | listed | routed =>
    cases owned
    exact .inr (by simp [Event.snapshots])
  | deserted | dissociated | detached => exact .inl (inventory.mem_of_owner owned)
  | associated known | joined known | rejoined known =>
    cases owned
    exact .inl (List.mem_of_find?_eq_some known)
  | parted => exact .inl (routed_of_derived owned).1
  | attached first =>
    cases owned
    exact .inl (ofRouter_eq_some first).1

/-- With a VNI on every BGPVPN that is recorded or carried by the event, whatever the event calls
for can be published. -/
theorem Calls.publishable (calls : inventory.Calls event assignment)
    (recorded : ∀ bgpvpn ∈ inventory.bgpvpns, bgpvpn.vni ≠ none)
    (carried : ∀ bgpvpn ∈ event.snapshots, bgpvpn.vni ≠ none) :
    ∃ attributes, Bag.ofOwner assignment.owner = .ok attributes := by
  cases owned : assignment.owner with
  | none => exact ⟨_, rfl⟩
  | some bgpvpn =>
    apply (Bag.exists_ofBgpvpn_iff bgpvpn).mpr
    exact (calls.mem_of_owner owned).elim (recorded bgpvpn) (carried bgpvpn)

end EvpnMetadata.Topology.Inventory
