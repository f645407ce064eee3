import EvpnMetadata.Proofs.Reconcile.Layering
import Mathlib.Logic.Relation

/-! # Runs of layered inventories

The type of a BGPVPN is judged when a router is associated and when the BGPVPN is updated, and
nowhere else.  That keeps an inventory layered however events, sweeps, aborted transactions and all
the other changes follow one another.
-/

namespace EvpnMetadata.Topology.Inventory

open Vpn Switch Lifecycle Reconcile

inductive Alteration where
  | addRouter (routerId : String)
  | removeRouter (routerId : String)
  | addSubnet (subnetId networkId : String)
  | addPort (port : Port)
  | removePort (portId : String)
  | createBgpvpn (bgpvpn : Bgpvpn)
  | updateBgpvpn (bgpvpn : Bgpvpn)
  | deleteBgpvpn (bgpvpnId : String)
  | associateNetwork (bgpvpnId networkId : String)
  | dissociateNetwork (bgpvpnId networkId : String)
  | associateRouter (association : RouterAssociation)
  | dissociateRouter (bgpvpnId routerId : String)
  deriving DecidableEq, Repr

namespace Alteration

def apply (inventory : Inventory) : Alteration → Inventory
  | addRouter routerId => inventory.addRouter routerId
  | removeRouter routerId => inventory.removeRouter routerId
  | addSubnet subnetId networkId => inventory.addSubnet subnetId networkId
  | addPort port => inventory.addPort port
  | removePort portId => inventory.removePort portId
  | createBgpvpn bgpvpn | updateBgpvpn bgpvpn => inventory.putBgpvpn bgpvpn
  | deleteBgpvpn bgpvpnId => inventory.removeBgpvpn bgpvpnId
  | associateNetwork bgpvpnId networkId => inventory.associateNetwork bgpvpnId networkId
  | dissociateNetwork bgpvpnId networkId => inventory.dissociateNetwork bgpvpnId networkId
  | associateRouter association =>
    inventory.associateRouter association.bgpvpnId association.routerId
  | dissociateRouter bgpvpnId routerId => inventory.dissociateRouter bgpvpnId routerId

/-- A BGPVPN is created under a fresh id and without associations.  An update, which keeps the
associations, and an association of a router are stored only if their announcement is accepted. -/
def Admitted (naming : Naming) (site : Site) : Alteration → Prop
  | createBgpvpn bgpvpn =>
    bgpvpn.id ∉ site.inventory.bgpvpns.map Bgpvpn.id ∧ bgpvpn.networks = [] ∧ bgpvpn.routers = []
  | updateBgpvpn bgpvpn => ∃ current, site.inventory.record? bgpvpn.id = some current ∧
    bgpvpn.networks = current.networks ∧ bgpvpn.routers = current.routers ∧
    ((delivery naming (.bgpvpnUpdate .precommit current bgpvpn)).play Site.deployment site).result =
      .ok ()
  | associateRouter association =>
    ((delivery naming (.routerAssociationCreate .precommit association)).play Site.deployment
      site).result = .ok ()
  | _ => True

theorem built (alteration : Alteration) {inventory : Inventory} (built : inventory.Built) :
    (alteration.apply inventory).Built := by
  cases alteration with
  | addRouter => exact .addRouter _ built
  | removeRouter => exact .removeRouter _ built
  | addSubnet => exact .addSubnet _ _ built
  | addPort => exact .addPort _ built
  | removePort => exact .removePort _ built
  | createBgpvpn | updateBgpvpn => exact .putBgpvpn _ built
  | deleteBgpvpn => exact .removeBgpvpn _ built
  | associateNetwork => exact .associateNetwork _ _ built
  | dissociateNetwork => exact .dissociateNetwork _ _ built
  | associateRouter => exact .associateRouter _ _ built
  | dissociateRouter => exact .dissociateRouter _ _ built

theorem ending_of_accepted {naming : Naming} {event : Event} {site : Site}
    (accepted : ((delivery naming event).play Site.deployment site).result = .ok ()) :
    (site.inventory.agenda event).ending = .ok () := by
  obtain ⟨result, ended, _⟩ := delivers naming event site
  obtain ⟨_, _, ending⟩ := exists_of_bind_eq_ok (ended.symm.trans accepted)
  exact ending

/-- No change that is admitted lets a BGPVPN of another layer have a router. -/
theorem Admitted.layered {alteration : Alteration} {naming : Naming} {site : Site}
    (admitted : alteration.Admitted naming site) (keyed : site.inventory.Keyed)
    (layered : site.inventory.Layered) :
    (alteration.apply site.inventory).Layered := by
  cases alteration with
  | addRouter | removeRouter | addSubnet | addPort | removePort => exact layered
  | createBgpvpn bgpvpn => exact layered.putBgpvpn fun routed => absurd admitted.2.2 routed
  | updateBgpvpn bgpvpn =>
    obtain ⟨current, recorded, _, routers, accepted⟩ := admitted
    refine layered.putBgpvpn fun routed => ?_
    have judged := layered current (List.mem_of_find?_eq_some recorded) (routers ▸ routed)
    exact Revision.type_of_accept (ending_of_accepted accepted) judged
  | deleteBgpvpn bgpvpnId => exact layered.of_subset List.filter_sublist.subset
  | associateNetwork bgpvpnId networkId =>
    rw [apply, associateNetwork_eq]
    exact layered.modifyBgpvpn keyed fun bgpvpn recorded =>
      layered bgpvpn (List.mem_of_find?_eq_some recorded)
  | dissociateNetwork bgpvpnId networkId =>
    exact layered.modifyBgpvpn keyed fun bgpvpn recorded =>
      layered bgpvpn (List.mem_of_find?_eq_some recorded)
  | associateRouter association =>
    rw [apply, associateRouter_eq]
    refine layered.modifyBgpvpn keyed fun bgpvpn recorded _ => ?_
    have accepted := ending_of_accepted admitted
    rw [agenda, agendaOfRecord, recorded] at accepted
    exact Bgpvpn.type_of_requireL3 accepted
  | dissociateRouter bgpvpnId routerId =>
    refine layered.modifyBgpvpn keyed fun bgpvpn recorded routed => ?_
    refine layered bgpvpn (List.mem_of_find?_eq_some recorded) fun none => routed ?_
    change bgpvpn.routers.filter _ = []
    rw [none]
    rfl

end Alteration

end EvpnMetadata.Topology.Inventory

namespace EvpnMetadata.Reconcile

open Vpn EvpnMetadata.Topology Switch Lifecycle

variable (naming : Naming)

/-- One step at a site: an admitted change of the topology, a known event or a sweep, in both of
which any transaction may be aborted, or whatever others do to the switches. -/
inductive Step : Site → Site → Prop where
  | alter {site : Site} (alteration : Inventory.Alteration)
    (admitted : alteration.Admitted naming site) :
    Step site { site with inventory := alteration.apply site.inventory }
  | deliver {site : Site} {π : Type} (draw : π → Bool × π) (plan : π) (event : Event)
    (knows : site.inventory.Knows event) :
    Step site ((delivery naming event).play (Site.deployment.aborting draw) (plan, site)).state.2
  | sweep {site : Site} {π : Type} (draw : π → Bool × π) (plan : π) :
    Step site ((sweep naming).play (Site.deployment.aborting draw) (plan, site)).state.2
  | others {site : Site} (switches : Memory) : Step site { site with switches }

/-- A transaction withdraws what a switch carries, or publishes a BGPVPN that its network lists or
that is of layer three. -/
def IsLayered (inventory : Inventory) (transaction : Transaction) : Prop :=
  ∃ assignment : Assignment, assignment.IsSettledBy naming transaction ∧
    ∀ bgpvpn, assignment.owner = some bgpvpn →
      inventory.MayPublish assignment.networkId bgpvpn

variable {naming} {site later start : Site}

theorem Step.layered (step : Step naming site later)
    (invariant : site.inventory.Built ∧ site.inventory.Layered) :
    later.inventory.Built ∧ later.inventory.Layered := by
  obtain ⟨built, layered⟩ := invariant
  cases step with
  | alter alteration admitted =>
    exact ⟨alteration.built built, admitted.layered built.keyed layered⟩
  | deliver draw plan event knows =>
    rw [Site.inventory_play_aborting]
    exact ⟨built, layered⟩
  | sweep draw plan =>
    rw [Attempt.play, Site.inventory_play_aborting]
    exact ⟨built, layered⟩
  | others switches => exact ⟨built, layered⟩

/-- Every state that a run reaches from an empty topology is layered. -/
theorem layered_of_run (empty : start.inventory = {})
    (run : Relation.ReflTransGen (Step naming) start site) :
    site.inventory.Built ∧ site.inventory.Layered := by
  induction run with
  | refl =>
    rw [empty]
    exact ⟨.empty, fun bgpvpn record => by cases record⟩
  | tail _ step ih => exact step.layered ih

/-- From an empty topology on, only BGPVPNs of layer three are ever associated with routers.  So the
announcement of a router association that is there is never refused for its type, and neither a
known event nor a sweep publishes a BGPVPN of another layer on a network that it does not list. -/
theorem routers_carry_layer_three (empty : start.inventory = {})
    (run : Relation.ReflTransGen (Step naming) start site) :
    site.inventory.Layered ∧
    (∀ (association old : RouterAssociation) (event : Event),
      event = .routerAssociationCreate .postcommit association ∨
        event = .routerAssociationUpdate .postcommit old association →
      site.inventory.Knows event →
      ∀ (π : Type) (draw : π → Bool × π) (plan : π) (kind bgpvpnId vpnType : String),
        ((delivery naming event).play (Site.deployment.aborting draw) (plan, site)).result ≠
          .error (.invalidAssociation kind bgpvpnId vpnType)) ∧
    (∀ (π : Type) (draw : π → Bool × π) (plan : π),
      (∀ event, site.inventory.Knows event →
        ∀ transaction ∈ ((delivery naming event).play (Site.deployment.aborting draw)
          (plan, site)).transactions, IsLayered naming site.inventory transaction) ∧
      ∀ transaction ∈ ((sweep naming).play (Site.deployment.aborting draw)
        (plan, site)).transactions, IsLayered naming site.inventory transaction) := by
  obtain ⟨_, layered⟩ := layered_of_run empty run
  refine ⟨layered,
    fun association old event form knows π draw plan kind bgpvpnId vpnType failed => ?_,
    fun π draw plan => ⟨fun event knows transaction attempted => ?_,
      fun transaction attempted => ?_⟩⟩
  · have accepted : (site.inventory.agenda event).ending = .ok () := by
      rcases form with rfl | rfl <;> exact layered.ending_routerAssociation knows
    rcases fault_of_delivery naming draw plan site event failed with settling | refused
    · exact settling
    · rw [accepted] at refused
      cases refused
  · obtain ⟨assignment, mem, settled⟩ :=
      exists_isSettledBy_of_delivery naming draw plan site event attempted
    exact ⟨assignment, settled, fun bgpvpn => layered.mayPublish_of_agenda knows mem⟩
  · obtain ⟨networkId, settled⟩ := exists_isSettledBy_of_sweep naming draw plan site attempted
    exact ⟨_, settled, fun bgpvpn => layered.mayPublish_of_owner⟩

/-- A BGPVPN is created, a router is associated with it, and its type is written in another letter
case afterwards. -/
theorem routers_carry_layer_three_respelled :
    let created : Bgpvpn := { id := "v1", vpnType := "l3", vni := some 100 }
    let association : RouterAssociation := { bgpvpnId := "v1", routerId := "r1" }
    let updated : Bgpvpn := { created with vpnType := "L3", routers := ["r1"] }
    let inventory : Inventory := { bgpvpns := [updated] }
    Relation.ReflTransGen (Step {}) {} { inventory } ∧ inventory.Layered ∧
      ((delivery {} (.routerAssociationCreate .postcommit association)).play
        (Site.deployment.aborting AbortPlan.draw) ({}, { inventory })).result ≠
          .error (.invalidAssociation "router" "v1" "L3") := by
  intro created association updated inventory
  let fresh : Site := { inventory := { bgpvpns := [created] } }
  let routed : Site := { inventory := { bgpvpns := [created.withRouter "r1"] } }
  have create : Step {} {} fresh := .alter (.createBgpvpn created) ⟨by decide, rfl, rfl⟩
  have accepted : ((delivery {} (.routerAssociationCreate .precommit association)).play
      Site.deployment fresh).result = .ok () := by decide +kernel
  have associate : Step {} fresh routed := .alter (.associateRouter association) accepted
  have update : Step {} routed { inventory } :=
    .alter (.updateBgpvpn updated) ⟨created.withRouter "r1", by decide, rfl, rfl, by decide +kernel⟩
  have run : Relation.ReflTransGen (Step {}) {} { inventory } :=
    .tail (.tail (.tail .refl create) associate) update
  obtain ⟨layered, unrefused, -⟩ := routers_carry_layer_three rfl run
  have knows : inventory.Knows (.routerAssociationCreate .postcommit association) :=
    ⟨updated, by decide, by decide⟩
  exact ⟨run, layered, unrefused association association _ (.inl rfl) knows _ _ _ _ _ _⟩

end EvpnMetadata.Reconcile
