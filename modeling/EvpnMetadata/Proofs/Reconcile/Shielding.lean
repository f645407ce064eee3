import EvpnMetadata.Proofs.Reconcile.Attempts
import EvpnMetadata.Proofs.Reconcile.Calls

/-! # Shielded networks

Whoever is associated with a network directly shields it from the routers on it.  The hooks that
come to a network through a router ask for direct associations first and leave the network alone if
there is one, and the hook of a detached interface settles it on the first of them.
-/

namespace EvpnMetadata.Reconcile

open Vpn EvpnMetadata.Topology Switch Lifecycle

variable {naming : Naming}

section Rows

variable {mayAbort : Prop} {before after : Switches} {transactions : List Transaction}
  {name : String}

theorem Posts.get?_of_unattempted {assignment : Assignment} {result : Except Fault Bool}
    (h : Posts naming mayAbort assignment before result after transactions)
    (unattempted : ∀ transaction ∈ transactions, transaction.name ≠ name) :
    after.get? name = before.get? name := by
  cases h with
  | absent | refused | aborted => rfl
  | written found good =>
    have elsewhere : naming.logicalName assignment.networkId ≠ name :=
      unattempted _ (List.mem_singleton_self _)
    rw [Assignment.get?_effect, if_neg elsewhere.symm]

/-- A row changes only in a transaction of its own. -/
theorem Performs.get?_of_unattempted {assignments : List Assignment} {result : Except Fault Unit}
    (h : Performs naming mayAbort assignments before result after transactions)
    (unattempted : ∀ transaction ∈ transactions, transaction.name ≠ name) :
    after.get? name = before.get? name := by
  induction h with
  | nil => rfl
  | cons posted performed ih =>
    obtain ⟨now, later⟩ := List.forall_mem_append.mp unattempted
    rw [ih later, posted.get?_of_unattempted now]
  | stop rest failed => exact failed.get?_of_unattempted unattempted

end Rows

/-- The events that come to a network through routers only. -/
inductive ThroughRouters (networkId : String) : Event → Prop where
  | associated (association : RouterAssociation) :
    ThroughRouters networkId (.routerAssociationCreate .postcommit association)
  | reassociated (old association : RouterAssociation) :
    ThroughRouters networkId (.routerAssociationUpdate .postcommit old association)
  | dissociated (association : RouterAssociation) :
    ThroughRouters networkId (.routerAssociationDelete .precommit association)
  | attached (routerId : String) (port : Port) :
    ThroughRouters networkId (.routerInterfaceCreated routerId port)
  | updated (old : Bgpvpn) {new : Bgpvpn} (unlisted : networkId ∉ new.networks) :
    ThroughRouters networkId (.bgpvpnUpdate .postcommit old new)

section Shield

variable {inventory : Inventory} {event : Event} {assignment : Assignment}

theorem direct_routerAssociation (inventory : Inventory) (networkId bgpvpnId routerId : String) :
    inventory.direct networkId (.routerAssociation bgpvpnId routerId) =
      inventory.direct networkId .nothing := rfl

theorem direct_routerInterface (inventory : Inventory) (networkId routerId subnetId : String) :
    inventory.direct networkId (.routerInterface routerId subnetId) =
      inventory.direct networkId .nothing := rfl

/-- Whatever is called for through routers only has no direct association. -/
theorem ThroughRouters.direct_eq_nil (through : ThroughRouters assignment.networkId event)
    (calls : inventory.Calls event assignment) :
    inventory.direct assignment.networkId .nothing = [] := by
  cases calls with
  | routed _ _ _ free | joined _ _ free | rejoined _ _ free | attached _ free => exact free
  | parted _ free => rwa [direct_routerAssociation] at free
  | listed own =>
    cases through with
    | updated _ unlisted => exact absurd own unlisted
  | deserted | associated | dissociated | detached => cases through

/-- The first BGPVPN that lists a network owns it, whichever interface leaves. -/
theorem owner_routerInterface {networkId : String} {first : Bgpvpn}
    (heads : inventory.bgpvpns.find? (fun bgpvpn => bgpvpn.hasNetwork networkId) = some first)
    (routerId subnetId : String) :
    inventory.owner networkId (.routerInterface routerId subnetId) = some first := by
  have listed : inventory.direct networkId .nothing =
      inventory.bgpvpns.filter fun bgpvpn => bgpvpn.hasNetwork networkId :=
    congrArg (List.filter · inventory.bgpvpns) (funext fun _ => Bool.and_true _)
  rw [Inventory.owner, direct_routerInterface, listed, List.head?_filter, heads, Option.some_or]

end Shield

/-- A network with a direct association is not touched by events that come to it through routers
only.  When an interface is detached from it, all that may be attempted on it is to write the first
of its direct associations. -/
theorem direct_association_shields (naming : Naming) (draw : π → Bool × π) (plan : π) {site : Site}
    {networkId : String} {bgpvpn : Bgpvpn} (direct : site.inventory.Direct networkId bgpvpn) :
    let outcome (event : Event) :=
      (delivery naming event).play (Site.deployment.aborting draw) (plan, site)
    (∀ event, ThroughRouters networkId event →
      (∀ transaction ∈ (outcome event).transactions,
        transaction.name ≠ naming.logicalName networkId) ∧
      (outcome event).state.2.switches.switches.get? (naming.logicalName networkId) =
        site.switches.switches.get? (naming.logicalName networkId)) ∧
    ∃ first, site.inventory.bgpvpns.find? (fun bgpvpn => bgpvpn.hasNetwork networkId) =
        some first ∧
      ∀ routerId subnetId,
        ∀ transaction ∈ (outcome (.routerInterfaceDeleted routerId subnetId)).transactions,
          transaction.name = naming.logicalName networkId →
            Assignment.IsSettledBy naming ⟨networkId, some first⟩ transaction := by
  intro outcome
  constructor
  · intro event through
    obtain ⟨_, _, performed⟩ := delivers_under_aborts naming draw plan site event
    have unattempted : ∀ transaction ∈ (outcome event).transactions,
        transaction.name ≠ naming.logicalName networkId := by
      intro transaction attempted named
      obtain ⟨assignment, listed, _, _, rfl⟩ := performed.exists_isSettledBy attempted
      obtain rfl : assignment.networkId = networkId := naming.logicalName_inj.mp named
      have free := through.direct_eq_nil (Inventory.calls_of_mem listed)
      exact Inventory.direct_eq_nil_iff.mp free bgpvpn direct
    exact ⟨unattempted, performed.get?_of_unattempted unattempted⟩
  · have known : (site.inventory.bgpvpns.find? fun bgpvpn =>
        bgpvpn.hasNetwork networkId).isSome := by
      rw [List.find?_isSome]
      exact ⟨bgpvpn, direct.1, List.contains_iff_mem.mpr direct.2⟩
    obtain ⟨first, heads⟩ := Option.isSome_iff_exists.mp known
    refine ⟨first, heads, fun routerId subnetId transaction attempted named => ?_⟩
    obtain ⟨assignment, listed, settles⟩ :=
      exists_isSettledBy_of_delivery naming draw plan site _ attempted
    cases Inventory.calls_of_mem listed with
    | @detached _ _ subnet =>
      obtain ⟨attributes, good, rfl⟩ := settles
      obtain rfl : subnet.networkId = networkId := naming.logicalName_inj.mp named
      rw [owner_routerInterface heads] at good
      exact ⟨attributes, good, rfl⟩

def shieldedSite : Site where
  inventory := (((Inventory.attach {} "r1" "n1" "s1").putBgpvpn
    { id := "a", vpnType := "l3", vni := some 100, networks := ["n1"] }).putBgpvpn
    { id := "b", vpnType := "l3", vni := some 200, routers := ["r1"] })
  switches := Memory.add {} "neutron-n1" "uuid-1"

/-- The association of the router leaves the network alone, and its detachment from the network
writes the direct association. -/
theorem direct_association_shields_shieldedSite :
    let direct : Bgpvpn := { id := "a", vpnType := "l3", vni := some 100, networks := ["n1"] }
    let outcome (event : Event) :=
      (delivery {} event).play (Site.deployment.aborting fun plan : Unit => (false, plan))
        ((), shieldedSite)
    let association : RouterAssociation := { bgpvpnId := "b", routerId := "r1" }
    let announced := outcome (.routerAssociationCreate .postcommit association)
    let detached := outcome (.routerInterfaceDeleted "r1" "s1")
    shieldedSite.inventory.Direct "n1" direct ∧
    (∀ transaction ∈ announced.transactions, transaction.name ≠ "neutron-n1") ∧
    detached.transactions.map Transaction.name = ["neutron-n1"] ∧
    ∃ transaction ∈ detached.transactions,
      Assignment.IsSettledBy {} ⟨"n1", some direct⟩ transaction := by
  intro direct outcome association announced detached
  have listed : shieldedSite.inventory.Direct "n1" direct := ⟨by decide, by decide⟩
  have first : shieldedSite.inventory.bgpvpns.find? (fun bgpvpn => bgpvpn.hasNetwork "n1") =
      some direct := by decide
  have named : detached.transactions.map Transaction.name = ["neutron-n1"] := by decide +kernel
  obtain ⟨shielded, _, heads, settles⟩ :=
    direct_association_shields {} (fun plan : Unit => (false, plan)) () listed
  obtain rfl := Option.some.inj (first.symm.trans heads)
  obtain ⟨transaction, attempted, here⟩ := List.mem_map.mp (named ▸ List.mem_singleton_self _)
  exact ⟨listed, (shielded _ (.associated association)).1, named, transaction, attempted,
    settles _ _ transaction attempted here⟩

end EvpnMetadata.Reconcile
