import EvpnMetadata.Proofs.Reconcile.Attempts
import EvpnMetadata.Proofs.Reconcile.Calls
import EvpnMetadata.Proofs.Reconcile.Changes
import EvpnMetadata.Proofs.Vpn.Admission

/-! # Layered inventories

A router joins networks on layer three, so a BGPVPN of another layer must not be reached through
one.  While every BGPVPN with a router is of layer three, whatever an event or a sweep publishes is
listed by its network or of layer three, although only the hooks of router associations look at the
type.
-/

namespace EvpnMetadata.Topology.Inventory

open Vpn Switch Lifecycle Reconcile

/-- Whatever BGPVPN a router is associated with is of layer three. -/
def Layered (inventory : Inventory) : Prop :=
  ∀ bgpvpn ∈ inventory.bgpvpns, bgpvpn.routers ≠ [] → bgpvpn.type = .ok .l3

def MayPublish (inventory : Inventory) (networkId : String) (bgpvpn : Bgpvpn) : Prop :=
  bgpvpn ∈ inventory.bgpvpns ∧ (networkId ∈ bgpvpn.networks ∨ bgpvpn.type = .ok .l3)

variable {inventory : Inventory}

theorem Layered.of_subset (layered : inventory.Layered) {later : Inventory}
    (subset : later.bgpvpns ⊆ inventory.bgpvpns) : later.Layered :=
  fun bgpvpn record => layered bgpvpn (subset record)

/-- A record is stored anew together with its routers, unless it has none. -/
theorem Layered.putBgpvpn (layered : inventory.Layered) {bgpvpn : Bgpvpn}
    (judged : bgpvpn.routers ≠ [] → bgpvpn.type = .ok .l3) :
    (inventory.putBgpvpn bgpvpn).Layered := by
  intro other record
  rcases mem_of_mem_upsert record with rfl | known
  · exact judged
  · exact layered other known

/-- A change of one record has to leave it without routers or of layer three. -/
theorem Layered.modifyBgpvpn (layered : inventory.Layered) (keyed : inventory.Keyed)
    {bgpvpnId : String} {change : Bgpvpn → Bgpvpn}
    (judged : ∀ bgpvpn, inventory.record? bgpvpnId = some bgpvpn →
      (change bgpvpn).routers ≠ [] → (change bgpvpn).type = .ok .l3) :
    (inventory.modifyBgpvpn bgpvpnId change).Layered := by
  intro other record
  change other ∈ modifyFirst _ change inventory.bgpvpns at record
  rw [modifyFirst_eq_map keyed.bgpvpns, List.mem_map] at record
  obtain ⟨bgpvpn, known, rfl⟩ := record
  split
  · next named => exact judged bgpvpn ((record?_eq_some_iff keyed).mpr ⟨known, named⟩)
  · exact layered bgpvpn known

section Publications

variable (layered : inventory.Layered) {networkId : String} {bgpvpn : Bgpvpn}

include layered

theorem Layered.mayPublish_of_ofRouter {routerId : String} {departing : Departing}
    (found : inventory.ofRouter routerId departing = some bgpvpn) :
    inventory.MayPublish networkId bgpvpn := by
  obtain ⟨record, own, _⟩ := ofRouter_eq_some found
  exact ⟨record, .inr (layered bgpvpn record (List.ne_nil_of_mem own))⟩

theorem Layered.mayPublish_of_derived {departing : Departing}
    (found : inventory.derived networkId departing = some bgpvpn) :
    inventory.MayPublish networkId bgpvpn := by
  obtain ⟨port, _, first⟩ := derived_eq_some found
  exact layered.mayPublish_of_ofRouter first

theorem Layered.mayPublish_of_owner {departing : Departing}
    (owned : inventory.owner networkId departing = some bgpvpn) :
    inventory.MayPublish networkId bgpvpn := by
  rcases Option.or_eq_some_iff.mp owned with direct | ⟨_, derived⟩
  · obtain ⟨record, own, _⟩ := mem_direct.mp (List.mem_of_head? direct)
    exact ⟨record, .inl own⟩
  · exact layered.mayPublish_of_derived derived

end Publications

/-- The events that carry records and associations as the inventory has them.  An event on something
that leaves, or on a router interface, may carry anything. -/
def Knows (inventory : Inventory) : Event → Prop
  | .bgpvpnUpdate .postcommit _ new => inventory.record? new.id = some new
  | .networkAssociationCreate .postcommit association =>
    ∃ bgpvpn, inventory.record? association.bgpvpnId = some bgpvpn ∧
      association.networkId ∈ bgpvpn.networks
  | .routerAssociationCreate .postcommit association
  | .routerAssociationUpdate .postcommit _ association =>
    ∃ bgpvpn, inventory.record? association.bgpvpnId = some bgpvpn ∧
      association.routerId ∈ bgpvpn.routers
  | _ => True

theorem Layered.mayPublish_of_agenda (layered : inventory.Layered) {event : Event}
    (knows : inventory.Knows event) {assignment : Assignment}
    (mem : assignment ∈ (inventory.agenda event).assignments) {bgpvpn : Bgpvpn}
    (owned : assignment.owner = some bgpvpn) :
    inventory.MayPublish assignment.networkId bgpvpn := by
  have routed {other : Bgpvpn} {routerId : String} (record : other ∈ inventory.bgpvpns)
      (own : routerId ∈ other.routers) : inventory.MayPublish assignment.networkId other :=
    ⟨record, .inr (layered other record (List.ne_nil_of_mem own))⟩
  cases calls_of_mem mem with
  | listed own =>
    cases owned
    exact ⟨List.mem_of_find?_eq_some knows, .inl own⟩
  | routed own =>
    cases owned
    exact routed (List.mem_of_find?_eq_some knows) own
  | associated known =>
    obtain ⟨_, recorded, own⟩ := knows
    cases recorded.symm.trans known
    cases owned
    exact ⟨List.mem_of_find?_eq_some known, .inl own⟩
  | joined known | rejoined known =>
    obtain ⟨_, recorded, own⟩ := knows
    cases recorded.symm.trans known
    cases owned
    exact routed (List.mem_of_find?_eq_some known) own
  | attached first =>
    cases owned
    exact layered.mayPublish_of_ofRouter first
  | parted => exact layered.mayPublish_of_derived owned
  | deserted | dissociated | detached => exact layered.mayPublish_of_owner owned

theorem Layered.ending_routerAssociation (layered : inventory.Layered)
    {association : RouterAssociation} (present : ∃ bgpvpn,
      inventory.record? association.bgpvpnId = some bgpvpn ∧
        association.routerId ∈ bgpvpn.routers) :
    (inventory.agendaOfRouterAssociation association).ending = .ok () := by
  obtain ⟨bgpvpn, recorded, own⟩ := present
  have judged := layered bgpvpn (List.mem_of_find?_eq_some recorded) (List.ne_nil_of_mem own)
  rw [agendaOfRouterAssociation, agendaOfRecord, recorded]
  simp only [Bgpvpn.requireL3_eq judged, Agenda.andThen]
  split <;> rfl

end EvpnMetadata.Topology.Inventory
