import EvpnMetadata.Proofs.Reconcile.Ownership
import EvpnMetadata.Proofs.Reconcile.Sweeping

/-! # What procedures may write

A procedure is judged without fixing what it is answered: the topology may show any known BGPVPN at
any time, and the store may answer anything.  Whatever the answers, every transaction of the
reconciler replaces the whole EVPN part of a bag, by what one known BGPVPN publishes or by nothing.
-/

namespace EvpnMetadata

open Vpn EvpnMetadata.Topology Switch Lifecycle

/-- The changes that replace the EVPN part of a bag by what a known BGPVPN publishes, or by
nothing. -/
def IsPublication (known : Bgpvpn → Prop) (changes : List Change) : Prop :=
  ∃ owner attributes, (∀ bgpvpn, owner = some bgpvpn → known bgpvpn) ∧
    Bag.ofOwner owner = .ok attributes ∧ changes = replacement attributes

def Lifecycle.Event.snapshots : Event → List Bgpvpn
  | .bgpvpnCreate _ bgpvpn | .bgpvpnDelete _ bgpvpn => [bgpvpn]
  | .bgpvpnUpdate _ old new => [old, new]
  | _ => []

namespace Procedure

variable {known : Bgpvpn → Prop}

/-- While the topology shows known BGPVPNs only, every transaction is a publication and the result
is as stated. -/
def Ensures (known : Bgpvpn → Prop) (post : α → Prop) : Procedure α → Prop
  | done result => post result
  | router _ next => ∀ answer, (next answer).Ensures known post
  | subnet _ next => ∀ answer, (next answer).Ensures known post
  | bgpvpn _ next =>
    ∀ answer, (∀ shown, answer = .ok (some shown) → known shown) → (next answer).Ensures known post
  | ports _ next => ∀ answer, (next answer).Ensures known post
  | bgpvpns _ next =>
    ∀ answer, (∀ listed, answer = .ok listed → ∀ shown ∈ listed, known shown) →
      (next answer).Ensures known post
  | lookup _ next => ∀ answer, (next answer).Ensures known post
  | rows next => ∀ answer, (next answer).Ensures known post
  | transact _ changes next =>
    IsPublication known changes ∧ ∀ answer, (next answer).Ensures known post
  | log _ next => next.Ensures known post

theorem Ensures.bind {p : Procedure α} {f : α → Procedure β} {mid : α → Prop} {post : β → Prop}
    (hp : p.Ensures known mid) (hf : ∀ a, mid a → (f a).Ensures known post) :
    (p.bind f).Ensures known post := by
  induction p with
  | done result => exact hf result hp
  | router id next ih | subnet id next ih | ports filter next ih | lookup name next ih
  | rows next ih => exact fun answer => ih answer (hp answer)
  | bgpvpn id next ih | bgpvpns filter next ih =>
    exact fun answer shown => ih answer (hp answer shown)
  | transact row changes next ih => exact ⟨hp.1, fun answer => ih answer (hp.2 answer)⟩
  | log line next ih => exact ih hp

theorem IsInquiry.ensures {p : Procedure α} (hp : p.IsInquiry) {post : α → Prop}
    (all : ∀ a, post a) : p.Ensures known post := by
  induction p with
  | done result => exact all result
  | router id next ih | subnet id next ih | ports filter next ih =>
    exact fun answer => ih answer (hp answer)
  | bgpvpn id next ih | bgpvpns filter next ih => exact fun answer _ => ih answer (hp answer)
  | lookup name next | rows next | transact row changes next => exact hp.elim
  | log line next ih => exact ih hp

theorem Ensures.foldlM {f : β → α → Procedure β} (hf : ∀ b a, (f b a).Ensures known fun _ => True)
    (b : β) (items : List α) : (items.foldlM f b).Ensures known fun _ => True := by
  induction items generalizing b with
  | nil => trivial
  | cons item rest ih =>
    rw [List.foldlM_cons]
    exact (hf b item).bind fun next _ => ih next

end Procedure

namespace Attempt

variable {known : Bgpvpn → Prop}

structure Ensures (known : Bgpvpn → Prop) (post : α → Prop) (attempt : Attempt α) : Prop where
  run : attempt.run.Ensures known fun result => ∀ a, result = .ok a → post a

abbrev Publishes (known : Bgpvpn → Prop) (attempt : Attempt α) : Prop :=
  attempt.Ensures known fun _ => True

theorem ensures_pure {post : α → Prop} {a : α} (h : post a) :
    Ensures known post (pure a : Attempt α) :=
  ⟨fun _ same => Except.ok.inj same ▸ h⟩

theorem ensures_throw (post : α → Prop) (fault : Fault) :
    Ensures known post (throw fault : Attempt α) :=
  ⟨fun _ => nofun⟩

theorem ensures_ofExcept (result : Except Fault α) : Publishes known (ofExcept result) :=
  ⟨fun _ _ => trivial⟩

theorem Ensures.bind {x : Attempt α} {f : α → Attempt β} {mid : α → Prop} {post : β → Prop}
    (hx : x.Ensures known mid) (hf : ∀ a, mid a → (f a).Ensures known post) :
    (x >>= f).Ensures known post := by
  refine ⟨Procedure.Ensures.bind hx.run fun result holds => ?_⟩
  cases result with
  | ok a => exact (hf a (holds a rfl)).run
  | error fault => exact (ensures_throw post fault).run

theorem IsInquiry.publishes {x : Attempt α} (hx : x.IsInquiry) : x.Publishes known :=
  ⟨Procedure.IsInquiry.ensures hx fun _ _ _ => trivial⟩

/-- What follows an inquiry decides what is written. -/
theorem IsInquiry.bind_ensures {x : Attempt α} {f : α → Attempt β} {post : β → Prop}
    (hx : x.IsInquiry) (hf : ∀ a, (f a).Ensures known post) : (x >>= f).Ensures known post :=
  hx.publishes.bind fun a _ => hf a

theorem publishes_discard {x : Attempt α} (hx : x.Publishes known) :
    Publishes known (do discard x : Attempt Unit) := by
  change Publishes known (_ <$> x)
  rw [map_eq_pure_bind]
  exact hx.bind fun _ _ => ensures_pure trivial

theorem publishes_forM {f : α → Attempt Unit} (items : List α)
    (hf : ∀ item, (f item).Publishes known) : (items.forM f).Publishes known := by
  induction items with
  | nil => exact ensures_pure trivial
  | cons item rest ih => exact (hf item).bind fun _ _ => ih

theorem ensures_mapM {f : α → Attempt β} {post : β → Prop}
    (hf : ∀ a, (f a).Ensures known post) (items : List α) :
    (items.mapM f).Ensures known fun results => ∀ b ∈ results, post b := by
  induction items with
  | nil =>
    rw [List.mapM_nil]
    exact ensures_pure nofun
  | cons item rest ih =>
    rw [List.mapM_cons]
    refine (hf item).bind fun first holds => ih.bind fun others hold => ensures_pure ?_
    exact List.forall_mem_cons.mpr ⟨holds, hold⟩

theorem publishes_lookup (name : String) : (lookup name).Publishes known :=
  ⟨fun _ _ _ => trivial⟩

theorem publishes_rows : rows.Publishes known := ⟨fun _ _ _ => trivial⟩

end Attempt

namespace Reconcile

variable (naming : Naming) {known : Bgpvpn → Prop}

theorem ensures_bgpvpn (id : String) :
    (Attempt.bgpvpn id).Ensures known fun found =>
      ∀ bgpvpn, found = some bgpvpn → known bgpvpn := by
  refine ⟨fun answer shown found result bgpvpn same => shown bgpvpn ?_⟩
  rw [result, same]

theorem ensures_bgpvpns (filter : BgpvpnFilter) :
    (Attempt.bgpvpns filter).Ensures known fun listed => ∀ bgpvpn ∈ listed, known bgpvpn :=
  ⟨fun _ shown listed result => shown listed result⟩

theorem ensures_resolveBgpvpn (bgpvpnId : String) :
    (resolveBgpvpn bgpvpnId).Ensures known known := by
  refine (ensures_bgpvpn bgpvpnId).bind fun found shown => ?_
  cases found with
  | none => exact Attempt.ensures_throw _ _
  | some bgpvpn => exact Attempt.ensures_pure (shown bgpvpn rfl)

theorem ensures_directBgpvpns (networkId : String) (departing : Departing) :
    (directBgpvpns networkId departing).Ensures known fun direct =>
      ∀ bgpvpn ∈ direct, known bgpvpn :=
  (ensures_bgpvpns _).bind fun _ shown => Attempt.ensures_pure fun bgpvpn mem =>
    shown bgpvpn (List.mem_of_mem_filter mem)

abbrev Resolves (known : Bgpvpn → Prop) (attempt : Attempt (Option Bgpvpn)) : Prop :=
  attempt.Ensures known fun owner => ∀ bgpvpn, owner = some bgpvpn → known bgpvpn

theorem resolves_routerBgpvpn (routerId : String) (departing : Departing) :
    Resolves known (routerBgpvpn routerId departing) := by
  refine (ensures_bgpvpns _).bind fun listed shown => ?_
  have known_of_mem (bgpvpn : Bgpvpn) (mem : bgpvpn ∈ listed.filter fun bgpvpn =>
      !departing.dropsThroughRouter bgpvpn.id routerId) : known bgpvpn :=
    shown bgpvpn (List.mem_of_mem_filter mem)
  split
  · exact Attempt.ensures_pure nofun
  · next same =>
    refine Attempt.ensures_pure ?_
    rintro _ ⟨⟩
    exact known_of_mem _ (same ▸ List.mem_cons_self)
  · next same =>
    refine (Attempt.isInquiry_log _ _).bind_ensures fun _ => Attempt.ensures_pure ?_
    rintro _ ⟨⟩
    exact known_of_mem _ (same ▸ List.mem_cons_self)

theorem known_of_firsts {reached : List (Option Bgpvpn)}
    (shown : ∀ found ∈ reached, ∀ bgpvpn, found = some bgpvpn → known bgpvpn) {first : Bgpvpn}
    {others : List Bgpvpn} (same : firsts Bgpvpn.id (reached.filterMap id) = first :: others) :
    known first := by
  have head := head?_firsts Bgpvpn.id (reached.filterMap id)
  rw [same, List.head?_cons] at head
  obtain ⟨found, mem, rfl⟩ := List.mem_filterMap.mp (List.mem_of_head? head.symm)
  exact shown _ mem first rfl

theorem resolves_routerDerived (networkId : String) (departing : Departing) :
    Resolves known (routerDerived networkId departing) := by
  refine (isInquiry_routersOfNetwork networkId departing).bind_ensures fun routers => ?_
  refine (Attempt.ensures_mapM (resolves_routerBgpvpn · departing) routers).bind
    fun reached shown => ?_
  split
  · exact Attempt.ensures_pure nofun
  · next same =>
    refine Attempt.ensures_pure ?_
    rintro _ ⟨⟩
    exact known_of_firsts shown same
  · next same =>
    refine (Attempt.isInquiry_log _ _).bind_ensures fun _ => Attempt.ensures_pure ?_
    rintro _ ⟨⟩
    exact known_of_firsts shown same

theorem resolves_effective (networkId : String) (departing : Departing) :
    Resolves known (effective networkId departing) := by
  refine (ensures_directBgpvpns networkId departing).bind fun direct shown => ?_
  cases direct with
  | nil => exact resolves_routerDerived networkId departing
  | cons first others =>
    refine Attempt.ensures_pure ?_
    rintro _ ⟨⟩
    exact shown first List.mem_cons_self

theorem publishes_commit (row : Row) {changes : List Change} (h : IsPublication known changes) :
    (commit row changes).Publishes known := by
  refine ⟨h, fun answer => ?_⟩
  cases answer with
  | ok done => exact fun _ _ => trivial
  | error fault => exact fun _ _ => trivial

theorem publishes_post (assignment : Assignment)
    (owned : ∀ bgpvpn, assignment.owner = some bgpvpn → known bgpvpn) :
    (assignment.post naming).Publishes known := by
  obtain ⟨networkId, owner⟩ := assignment
  have written (row : Row) {attributes : Bag} (called : Bag.ofOwner owner = .ok attributes) :
      (do commit row (replacement attributes); return true : Attempt Bool).Publishes known :=
    (publishes_commit row ⟨owner, attributes, owned, called, rfl⟩).bind fun _ _ =>
      Attempt.ensures_pure trivial
  cases owner with
  | none =>
    refine (Attempt.publishes_lookup _).bind fun found _ => ?_
    cases found with
    | none => exact (Attempt.isInquiry_log _ _).bind_ensures fun _ => Attempt.ensures_pure trivial
    | some row => exact written row rfl
  | some bgpvpn =>
    refine (Attempt.publishes_lookup _).bind fun found _ => ?_
    cases found with
    | none => exact (Attempt.isInquiry_log _ _).bind_ensures fun _ => Attempt.ensures_pure trivial
    | some row =>
      change (do
        let attributes ← Attempt.ofExcept (Bag.ofBgpvpn bgpvpn)
        replace row attributes
        return true : Attempt Bool).Publishes known
      cases called : Bag.ofBgpvpn bgpvpn with
      | error fault => exact Attempt.ensures_throw _ fault
      | ok attributes => exact written row called

theorem publishes_settle (networkId : String) {owner : Option Bgpvpn}
    (owned : ∀ bgpvpn, owner = some bgpvpn → known bgpvpn) :
    (settle naming networkId owner).Publishes known := by
  rw [Assignment.settle_eq_post naming ⟨networkId, owner⟩]
  exact Attempt.publishes_discard (publishes_post naming _ owned)

theorem publishes_settle_some (networkId : String) {bgpvpn : Bgpvpn} (shown : known bgpvpn) :
    (settle naming networkId (some bgpvpn)).Publishes known :=
  publishes_settle naming networkId fun _ same => Option.some.inj same ▸ shown

theorem publishes_converge (networkId : String) (departing : Departing) :
    (converge naming networkId departing).Publishes known :=
  (resolves_effective networkId departing).bind fun _ owned =>
    publishes_settle naming networkId owned

theorem publishes_convergeThroughRouters (networkId : String) (departing : Departing) :
    (convergeThroughRouters naming networkId departing).Publishes known := by
  refine (isInquiry_directBgpvpns networkId departing).bind_ensures fun direct => ?_
  split
  · exact (resolves_routerDerived networkId departing).bind fun _ owned =>
      publishes_settle naming networkId owned
  · exact Attempt.ensures_pure trivial

theorem publishes_publishThroughRouter (networkId : String) {bgpvpn : Bgpvpn}
    (shown : known bgpvpn) : (publishThroughRouter naming networkId bgpvpn).Publishes known := by
  refine (isInquiry_directBgpvpns networkId .nothing).bind_ensures fun direct => ?_
  split
  · exact publishes_settle_some naming networkId shown
  · exact Attempt.ensures_pure trivial

theorem publishes_afterBgpvpnUpdate (old : Bgpvpn) {new : Bgpvpn} (shown : known new) :
    (afterBgpvpnUpdate naming old new).Publishes known := by
  rw [afterBgpvpnUpdate]
  cases (Revision.mk old new).isCosmetic with
  | true => exact Attempt.ensures_pure trivial
  | false =>
    refine (Attempt.publishes_forM _ fun networkId =>
      publishes_settle_some naming networkId shown).bind fun _ _ =>
        Attempt.publishes_forM _ fun routerId => ?_
    refine (isInquiry_connectedNetworks routerId).bind_ensures fun networks =>
      Attempt.publishes_forM _ fun networkId => ?_
    split
    · exact Attempt.ensures_pure trivial
    · exact publishes_publishThroughRouter naming networkId shown

theorem publishes_afterRouterAssociation (association : RouterAssociation) :
    (afterRouterAssociation naming association).Publishes known := by
  refine (ensures_resolveBgpvpn _).bind fun bgpvpn shown =>
    (Attempt.ensures_ofExcept _).bind fun _ _ => ?_
  refine (Attempt.isInquiry_router _).bind_ensures fun found => ?_
  cases found with
  | none => exact (Attempt.isInquiry_log _ _).publishes
  | some router =>
    refine (isInquiry_connectedNetworks _).bind_ensures fun networks =>
      Attempt.publishes_forM _ fun networkId => ?_
    exact publishes_publishThroughRouter naming networkId shown

/-- Whatever the hook, a BGPVPN that it writes was found in the topology or came with the event. -/
theorem publishes_handle (event : Event) (carried : ∀ bgpvpn ∈ event.snapshots, known bgpvpn) :
    (handle naming event).Publishes known := by
  cases event with
  | bgpvpnCreate phase bgpvpn =>
    cases phase with
    | precommit => exact Attempt.ensures_ofExcept _
    | postcommit => exact Attempt.ensures_pure trivial
  | bgpvpnUpdate phase old new =>
    cases phase with
    | precommit => exact Attempt.ensures_ofExcept _
    | postcommit =>
      apply publishes_afterBgpvpnUpdate
      exact carried new (List.mem_cons_of_mem old List.mem_cons_self)
  | bgpvpnDelete phase bgpvpn =>
    cases phase with
    | precommit =>
      exact (isInquiry_reachedNetworks bgpvpn).bind_ensures fun networks =>
        Attempt.publishes_forM _ fun networkId => publishes_converge naming networkId _
    | postcommit => exact Attempt.ensures_pure trivial
  | networkAssociationCreate phase association =>
    cases phase with
    | precommit => exact Attempt.ensures_pure trivial
    | postcommit =>
      exact (ensures_resolveBgpvpn _).bind fun bgpvpn shown =>
        publishes_settle_some naming association.networkId shown
  | networkAssociationDelete phase association =>
    cases phase with
    | precommit => exact publishes_converge naming association.networkId _
    | postcommit => exact Attempt.ensures_pure trivial
  | routerAssociationCreate phase association =>
    cases phase with
    | precommit =>
      exact (isInquiry_resolveBgpvpn _).bind_ensures fun _ => Attempt.ensures_ofExcept _
    | postcommit => exact publishes_afterRouterAssociation naming association
  | routerAssociationUpdate phase old association =>
    cases phase with
    | precommit => exact Attempt.ensures_pure trivial
    | postcommit => exact publishes_afterRouterAssociation naming association
  | routerAssociationDelete phase association =>
    cases phase with
    | precommit =>
      exact (isInquiry_connectedNetworks _).bind_ensures fun networks =>
        Attempt.publishes_forM _ fun networkId =>
          publishes_convergeThroughRouters naming networkId _
    | postcommit => exact Attempt.ensures_pure trivial
  | portAssociationCreate | portAssociationUpdate | portAssociationDelete =>
    exact Attempt.ensures_pure trivial
  | routerInterfaceCreated routerId port =>
    refine (resolves_routerBgpvpn routerId .nothing).bind fun found owned => ?_
    cases found with
    | none => exact Attempt.ensures_pure trivial
    | some bgpvpn => exact publishes_publishThroughRouter naming port.networkId (owned bgpvpn rfl)
  | routerInterfaceDeleted routerId subnetId =>
    refine (Attempt.isInquiry_subnet subnetId).bind_ensures fun found => ?_
    cases found with
    | none => exact (Attempt.isInquiry_log _ _).publishes
    | some subnet => exact publishes_converge naming subnet.networkId _

theorem publishes_delivery (event : Event) (carried : ∀ bgpvpn ∈ event.snapshots, known bgpvpn) :
    (delivery naming event).Ensures known fun _ => True := by
  refine Procedure.Ensures.bind (publishes_handle naming event carried).run fun result _ => ?_
  cases result with
  | ok done => trivial
  | error fault => trivial

theorem publishes_sweepNetwork (tagged : Bool) (networkId : String) :
    (sweepNetwork naming tagged networkId).Publishes known := by
  rw [sweepNetwork_eq]
  refine (resolves_effective networkId .nothing).bind fun owner owned => ?_
  split
  · exact Attempt.ensures_pure trivial
  · rw [map_eq_pure_bind]
    exact (publishes_post naming ⟨networkId, owner⟩ owned).bind fun _ _ =>
      Attempt.ensures_pure trivial

theorem publishes_sweepStep (tagged : FiniteMap Unit) (report : Report) (networkId : String) :
    (sweepStep naming tagged report networkId).Ensures known fun _ => True := by
  refine Procedure.Ensures.bind (publishes_sweepNetwork naming _ networkId).run fun result _ => ?_
  cases result with
  | ok verdict => trivial
  | error fault => trivial

theorem publishes_sweep : (sweep naming).Publishes known := by
  refine (Attempt.isInquiry_bgpvpns .all).bind_ensures fun bgpvpns => ?_
  have configured : (configuredNetworks naming).Publishes known :=
    Attempt.publishes_rows.bind fun _ _ => Attempt.ensures_pure trivial
  refine configured.bind fun listed _ => ?_
  refine (Attempt.IsInquiry.mapM isInquiry_neededNetworks bgpvpns).bind_ensures fun needed => ?_
  exact ⟨Procedure.Ensures.bind
    (Procedure.Ensures.foldlM (publishes_sweepStep naming _) _ _) fun _ _ _ _ => trivial⟩

end Reconcile

end EvpnMetadata
