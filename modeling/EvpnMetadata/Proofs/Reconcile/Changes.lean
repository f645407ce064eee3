import EvpnMetadata.Proofs.Reconcile.Candidates
import EvpnMetadata.Proofs.Reconcile.Removal
import EvpnMetadata.Proofs.Topology.Wiring
import EvpnMetadata.Proofs.Vpn.Revision

/-! # Changes of an inventory

Each hook settles the change of the inventory that it is meant for.  The networks that it visits are
settled on candidates, and a network that it leaves out has kept its candidates.
-/

namespace EvpnMetadata.Vpn.Bgpvpn

open Reconcile

def joinNetwork (networkId : String) (bgpvpn : Bgpvpn) : Bgpvpn :=
  { bgpvpn with networks := appendNew bgpvpn.networks [networkId] }

def joinRouter (routerId : String) (bgpvpn : Bgpvpn) : Bgpvpn :=
  { bgpvpn with routers := appendNew bgpvpn.routers [routerId] }

theorem mem_networks_joinNetwork {bgpvpn : Bgpvpn} {networkId other : String} :
    other ∈ (bgpvpn.joinNetwork networkId).networks ↔
      other ∈ bgpvpn.networks ∨ other = networkId := by
  rw [joinNetwork, Topology.Inventory.mem_appendNew, List.mem_singleton]

theorem mem_routers_joinRouter {bgpvpn : Bgpvpn} {routerId other : String} :
    other ∈ (bgpvpn.joinRouter routerId).routers ↔ other ∈ bgpvpn.routers ∨ other = routerId := by
  rw [joinRouter, Topology.Inventory.mem_appendNew, List.mem_singleton]

end EvpnMetadata.Vpn.Bgpvpn

namespace EvpnMetadata.Topology.Inventory

open Vpn Switch Lifecycle Reconcile

variable {inventory : Inventory} {networkId : String}

theorem record?_eq_some_iff (keyed : inventory.Keyed) {bgpvpnId : String} {bgpvpn : Bgpvpn} :
    inventory.record? bgpvpnId = some bgpvpn ↔ bgpvpn ∈ inventory.bgpvpns ∧ bgpvpn.id = bgpvpnId :=
  find?_eq_some_iff keyed.bgpvpns

theorem record?_modifyBgpvpn (inventory : Inventory) (bgpvpnId : String)
    {change : Bgpvpn → Bgpvpn} (kept : ∀ bgpvpn, (change bgpvpn).id = bgpvpn.id) :
    (inventory.modifyBgpvpn bgpvpnId change).record? bgpvpnId =
      (inventory.record? bgpvpnId).map change := by
  apply find?_modifyFirst
  intro bgpvpn
  rw [kept]

theorem eq_of_record? (keyed : inventory.Keyed) {bgpvpnId : String} {bgpvpn other : Bgpvpn}
    (known : inventory.record? bgpvpnId = some bgpvpn) (record : other ∈ inventory.bgpvpns)
    (same : other.id = bgpvpnId) : other = bgpvpn := by
  have known' := (record?_eq_some_iff keyed).mpr ⟨record, same⟩
  exact Option.some.inj (known'.symm.trans known)

theorem putBgpvpn_eq_modifyBgpvpn {bgpvpn : Bgpvpn}
    (known : bgpvpn.id ∈ inventory.bgpvpns.map Bgpvpn.id) :
    inventory.putBgpvpn bgpvpn = inventory.modifyBgpvpn bgpvpn.id fun _ => bgpvpn := by
  rw [putBgpvpn, modifyBgpvpn, upsert_eq_modifyFirst known]

/-- Where nobody is associated directly, a change that adds no network leaves it so. -/
theorem direct_modify_eq_nil (keyed : inventory.Keyed) {bgpvpnId : String}
    {change : Bgpvpn → Bgpvpn} (kept : ∀ bgpvpn, (change bgpvpn).networks = bgpvpn.networks)
    (free : ∀ other, ¬inventory.Direct networkId other) :
    (inventory.modifyBgpvpn bgpvpnId change).direct networkId .nothing = [] := by
  rw [direct_eq_nil_iff]
  rintro heir ⟨record, own⟩
  change heir ∈ modifyFirst _ change inventory.bgpvpns at record
  rw [modifyFirst_eq_map keyed.bgpvpns] at record
  obtain ⟨bgpvpn, known, rfl⟩ := List.mem_map.mp record
  refine free bgpvpn ⟨known, ?_⟩
  split at own
  · exact kept bgpvpn ▸ own
  · exact own

/-- The record with one id may be changed, as long as it keeps its claim on the network. -/
theorem Covers.of_modify (keyed : inventory.Keyed) {bgpvpnId : String} {change : Bgpvpn → Bgpvpn}
    (listed : ∀ bgpvpn ∈ inventory.bgpvpns, bgpvpn.id = bgpvpnId →
      (networkId ∈ (change bgpvpn).networks ↔ networkId ∈ bgpvpn.networks))
    (behind : (∀ other, ¬inventory.Direct networkId other) → ∀ bgpvpn ∈ inventory.bgpvpns,
      bgpvpn.id = bgpvpnId → ∀ routerId, networkId ∈ inventory.connected routerId →
        (routerId ∈ (change bgpvpn).routers ↔ routerId ∈ bgpvpn.routers))
    (kept : ∀ bgpvpn, inventory.MayOwn networkId (some bgpvpn) → bgpvpn.id = bgpvpnId →
      Bag.ofBgpvpn (change bgpvpn) = Bag.ofBgpvpn bgpvpn) :
    (inventory.modifyBgpvpn bgpvpnId change).Covers inventory networkId := by
  refine .of_map (modifyFirst_eq_map keyed.bgpvpns bgpvpnId change) rfl ?_ ?_ ?_
  · intro bgpvpn record
    split
    · next here => exact listed bgpvpn record here
    · rfl
  · intro free bgpvpn record routerId reached
    split
    · next here => exact behind free bgpvpn record here routerId reached
    · rfl
  · intro bgpvpn may
    split
    · next here => exact kept bgpvpn may here
    · rfl

theorem mem_unshielded {departing : Departing} {owner : String → Option Bgpvpn}
    {networks : List String} {assignment : Assignment} :
    assignment ∈ inventory.unshielded departing owner networks ↔
      assignment.networkId ∈ networks ∧ inventory.direct assignment.networkId departing = [] ∧
        assignment.owner = owner assignment.networkId := by
  rw [unshielded, List.mem_map]
  constructor
  · rintro ⟨networkId, mem, rfl⟩
    obtain ⟨there, free⟩ := List.mem_filter.mp mem
    exact ⟨there, List.isEmpty_iff.mp free, rfl⟩
  · rintro ⟨there, free, owned⟩
    refine ⟨assignment.networkId, List.mem_filter.mpr ⟨there, List.isEmpty_iff.mpr free⟩, ?_⟩
    rw [← owned]

theorem mem_networks_unshielded {departing : Departing} {owner : String → Option Bgpvpn}
    {networks : List String} :
    networkId ∈ (inventory.unshielded departing owner networks).map Assignment.networkId ↔
      networkId ∈ networks ∧ inventory.direct networkId departing = [] := by
  rw [List.mem_map]
  constructor
  · rintro ⟨assignment, mem, rfl⟩
    obtain ⟨there, free, _⟩ := mem_unshielded.mp mem
    exact ⟨there, free⟩
  · rintro ⟨there, free⟩
    exact ⟨⟨networkId, owner networkId⟩, mem_unshielded.mpr ⟨there, free, rfl⟩, rfl⟩

theorem owner_of_mem_extent {bgpvpn : Bgpvpn} (record : bgpvpn ∈ inventory.bgpvpns)
    {assignment : Assignment} (mem : assignment ∈ inventory.extent bgpvpn) :
    assignment.owner = some bgpvpn ∧ inventory.MayOwn assignment.networkId (some bgpvpn) := by
  rcases List.mem_append.mp mem with listed | reached
  · obtain ⟨networkId, own, rfl⟩ := List.mem_map.mp listed
    exact ⟨rfl, .inl ⟨record, own⟩⟩
  · obtain ⟨routerId, own, unshielded⟩ := List.mem_flatMap.mp reached
    obtain ⟨there, free, owned⟩ := mem_unshielded.mp unshielded
    refine ⟨owned, .inr ⟨direct_eq_nil_iff.mp free, record, routerId, own, ?_⟩⟩
    exact List.mem_of_mem_filter there

theorem mem_networks_extent {bgpvpn : Bgpvpn} (may : inventory.MayOwn networkId (some bgpvpn)) :
    networkId ∈ (inventory.extent bgpvpn).map Assignment.networkId := by
  rw [extent, List.map_append, List.mem_append, List.map_map]
  by_cases own : networkId ∈ bgpvpn.networks
  · exact .inl (List.mem_map.mpr ⟨networkId, own, rfl⟩)
  · rcases may with direct | ⟨free, _, routerId, reaching, reached⟩
    · exact absurd direct.2 own
    · refine .inr ?_
      rw [List.map_flatMap]
      refine List.mem_flatMap.mpr ⟨routerId, reaching, mem_networks_unshielded.mpr ⟨?_, ?_⟩⟩
      · rw [unlisted, List.mem_filter]
        exact ⟨reached, by simpa [Bgpvpn.hasNetwork] using own⟩
      · exact direct_eq_nil_iff.mpr free

theorem settles_create {bgpvpn : Bgpvpn} (fresh : bgpvpn.id ∉ inventory.bgpvpns.map Bgpvpn.id)
    (unlisted : bgpvpn.networks = []) (unrouted : bgpvpn.routers = []) :
    (inventory.putBgpvpn bgpvpn).Settles inventory [] where
  called mem := by cases mem
  kept {networkId} _ := by
    have mem (other : Bgpvpn) : other ∈ (inventory.putBgpvpn bgpvpn).bgpvpns ↔
        other ∈ inventory.bgpvpns ∨ other = bgpvpn := by
      rw [putBgpvpn, upsert_of_fresh fresh, List.mem_append, List.mem_singleton]
    refine .of_iff (fun other => ?_) fun _ other => ?_
    · rw [Direct, Direct, mem]
      constructor
      · rintro ⟨known | rfl, own⟩
        · exact ⟨known, own⟩
        · rw [unlisted] at own
          cases own
      · exact fun ⟨known, own⟩ => ⟨.inl known, own⟩
    · rw [Routed, Routed, mem]
      constructor
      · rintro ⟨known | rfl, routerId, own, reached⟩
        · exact ⟨known, routerId, own, reached⟩
        · rw [unrouted] at own
          cases own
      · exact fun ⟨known, reached⟩ => ⟨.inl known, reached⟩

theorem settles_update (keyed : inventory.Keyed) {old new : Bgpvpn}
    (known : inventory.record? new.id = some old) (networks : new.networks = old.networks)
    (routers : new.routers = old.routers) :
    (inventory.putBgpvpn new).Settles inventory
      ((inventory.putBgpvpn new).agenda (.bgpvpnUpdate .postcommit old new)).assignments := by
  obtain ⟨record, named⟩ := (record?_eq_some_iff keyed).mp known
  have modified := putBgpvpn_eq_modifyBgpvpn (List.mem_map.mpr ⟨old, record, named⟩)
  have covers (networkId : String) (kept : inventory.MayOwn networkId (some old) →
      Bag.ofBgpvpn new = Bag.ofBgpvpn old) :
      (inventory.putBgpvpn new).Covers inventory networkId := by
    rw [modified]
    refine .of_modify keyed ?_ ?_ ?_
    · intro other record' same
      rw [eq_of_record? keyed known record' same, networks]
    · intro _ other record' same routerId _
      rw [eq_of_record? keyed known record' same, routers]
    · intro other may same
      have record' : other ∈ inventory.bgpvpns := may.elim And.left fun routed => routed.2.1
      obtain rfl := eq_of_record? keyed known record' same
      exact kept may
  have reaching {networkId : String} (may : inventory.MayOwn networkId (some old)) :
      (inventory.putBgpvpn new).MayOwn networkId (some new) := by
    rcases may with ⟨_, own⟩ | ⟨free, _, routerId, own, reached⟩
    · exact .inl ⟨mem_upsert_self, networks ▸ own⟩
    · refine .inr ⟨fun heir direct => ?_, mem_upsert_self, routerId, routers ▸ own, reached⟩
      rcases mem_of_mem_upsert direct.1 with rfl | known'
      · exact free old ⟨record, networks ▸ direct.2⟩
      · exact free heir ⟨known', direct.2⟩
  rw [agenda]
  split
  · next cosmetic =>
    refine ⟨fun mem => (by cases mem), fun _ => covers _ fun _ => ?_⟩
    exact Revision.ofBgpvpn_of_isCosmetic cosmetic
  · refine ⟨fun mem => ?_, fun others => covers _ fun may => absurd ?_ others⟩
    · obtain ⟨owned, may⟩ := owner_of_mem_extent mem_upsert_self mem
      exact ⟨some new, may, by rw [owned]⟩
    · exact mem_networks_extent (reaching may)

theorem associateNetwork_eq (inventory : Inventory) (bgpvpnId networkId : String) :
    inventory.associateNetwork bgpvpnId networkId =
      inventory.modifyBgpvpn bgpvpnId (Bgpvpn.joinNetwork networkId) := by
  rw [associateNetwork]
  congr 1
  funext bgpvpn
  change _ = { bgpvpn with
    networks := if bgpvpn.hasNetwork networkId then bgpvpn.networks
      else bgpvpn.networks ++ [networkId] }
  split <;> rfl

theorem associateRouter_eq (inventory : Inventory) (bgpvpnId routerId : String) :
    inventory.associateRouter bgpvpnId routerId =
      inventory.modifyBgpvpn bgpvpnId (Bgpvpn.joinRouter routerId) := by
  rw [associateRouter]
  congr 1
  funext bgpvpn
  change _ = { bgpvpn with
    routers := if bgpvpn.hasRouter routerId then bgpvpn.routers
      else bgpvpn.routers ++ [routerId] }
  split <;> rfl

theorem settles_associateNetwork (keyed : inventory.Keyed) (association : NetworkAssociation) :
    (inventory.associateNetwork association.bgpvpnId association.networkId).Settles inventory
      ((inventory.associateNetwork association.bgpvpnId association.networkId).agenda
        (.networkAssociationCreate .postcommit association)).assignments := by
  obtain ⟨_, bgpvpnId, target⟩ := association
  rw [associateNetwork_eq]
  have covers (networkId : String)
      (apart : ∀ bgpvpn, inventory.record? bgpvpnId = some bgpvpn → networkId ≠ target) :
      (inventory.modifyBgpvpn bgpvpnId (Bgpvpn.joinNetwork target)).Covers inventory
        networkId := by
    refine .of_modify keyed ?_ (fun _ _ _ _ _ _ => .rfl) fun _ _ _ => rfl
    intro bgpvpn record same
    rw [Bgpvpn.mem_networks_joinNetwork]
    exact or_iff_left (apart bgpvpn ((record?_eq_some_iff keyed).mpr ⟨record, same⟩))
  have kept (bgpvpn : Bgpvpn) : (bgpvpn.joinNetwork target).id = bgpvpn.id := rfl
  have later := inventory.record?_modifyBgpvpn bgpvpnId kept
  rw [agenda, agendaOfRecord, later]
  cases known : inventory.record? bgpvpnId with
  | none =>
    refine ⟨fun mem => (by cases mem), fun _ => covers _ fun bgpvpn known' => ?_⟩
    rw [known] at known'
    cases known'
  | some bgpvpn =>
    rw [known] at later
    obtain ⟨record, _⟩ := (record?_eq_some_iff (keyed.modifyBgpvpn bgpvpnId kept)).mp later
    refine ⟨fun mem => ?_, fun others => covers _ fun _ _ => ?_⟩
    · have own : target ∈ (bgpvpn.joinNetwork target).networks :=
        Bgpvpn.mem_networks_joinNetwork.mpr (.inr rfl)
      rw [List.mem_singleton.mp mem]
      exact ⟨some (bgpvpn.joinNetwork target), .inl ⟨record, own⟩, rfl⟩
    · exact fun same => others (List.mem_singleton.mpr same)

/-- With interfaces on recorded routers only, it does not matter whether the router of an
association is recorded. -/
theorem Wired.assignments_ofRouterAssociation (wired : inventory.Wired)
    (association : RouterAssociation) {bgpvpn : Bgpvpn}
    (known : inventory.record? association.bgpvpnId = some bgpvpn)
    (accepted : bgpvpn.requireL3 = .ok ()) :
    (inventory.agendaOfRouterAssociation association).assignments =
      inventory.unshielded .nothing (fun _ => some bgpvpn)
        (inventory.connected association.routerId) := by
  rw [agendaOfRouterAssociation, agendaOfRecord, known]
  simp only [accepted, Agenda.andThen, List.nil_append]
  cases found : inventory.routers.find? fun router => router.id = association.routerId with
  | some router => rfl
  | none =>
    have unconnected : inventory.connected association.routerId = [] := by
      rw [List.eq_nil_iff_forall_not_mem]
      intro networkId reached
      obtain ⟨port, listed, isInterface, own, _⟩ := mem_connected.mp reached
      obtain ⟨router, recorded, named⟩ := List.mem_map.mp (wired.known listed isInterface)
      exact List.find?_eq_none.mp found router recorded (decide_eq_true (named.trans own))
    rw [unconnected]
    rfl

theorem settles_associateRouter (keyed : inventory.Keyed) (wired : inventory.Wired)
    (association : RouterAssociation)
    (accepted : (inventory.agenda (.routerAssociationCreate .precommit association)).ending =
      .ok ()) :
    (inventory.associateRouter association.bgpvpnId association.routerId).Settles inventory
      ((inventory.associateRouter association.bgpvpnId association.routerId).agenda
        (.routerAssociationCreate .postcommit association)).assignments := by
  obtain ⟨_, bgpvpnId, target, _⟩ := association
  rw [associateRouter_eq]
  have covers (networkId : String)
      (apart : (∀ other, ¬inventory.Direct networkId other) →
        networkId ∉ inventory.connected target) :
      (inventory.modifyBgpvpn bgpvpnId (Bgpvpn.joinRouter target)).Covers inventory
        networkId := by
    refine .of_modify keyed (fun _ _ _ => .rfl) ?_ fun _ _ _ => rfl
    intro free bgpvpn _ _ routerId reached
    rw [Bgpvpn.mem_routers_joinRouter]
    apply or_iff_left
    rintro rfl
    exact apart free reached
  have kept (bgpvpn : Bgpvpn) : (bgpvpn.joinRouter target).id = bgpvpn.id := rfl
  have later := inventory.record?_modifyBgpvpn bgpvpnId kept
  rw [agenda, agendaOfRecord] at accepted
  cases known : inventory.record? bgpvpnId with
  | none =>
    simp only [known] at accepted
    cases accepted
  | some bgpvpn =>
    simp only [known] at accepted
    rw [known] at later
    obtain ⟨record, _⟩ := (record?_eq_some_iff (keyed.modifyBgpvpn bgpvpnId kept)).mp later
    have wired' : (inventory.modifyBgpvpn bgpvpnId (Bgpvpn.joinRouter target)).Wired :=
      wired.congr rfl rfl rfl
    have accepted' : (bgpvpn.joinRouter target).requireL3 = .ok () := accepted
    rw [agenda, wired'.assignments_ofRouterAssociation _ later accepted']
    refine ⟨fun mem => ?_, fun others => covers _ fun free reached => others ?_⟩
    · obtain ⟨reached, free, owned⟩ := mem_unshielded.mp mem
      have unshielded := direct_eq_nil_iff.mp free
      have own : target ∈ (bgpvpn.joinRouter target).routers :=
        Bgpvpn.mem_routers_joinRouter.mpr (.inr rfl)
      exact ⟨some (bgpvpn.joinRouter target), .inr ⟨unshielded, record, target, own, reached⟩,
        by rw [owned]⟩
    · exact mem_networks_unshielded.mpr
        ⟨reached, direct_modify_eq_nil keyed (fun _ => rfl) free⟩

theorem settles_apply (keyed : inventory.Keyed) (removal : Removal)
    (recorded : ∀ record, removal = .bgpvpn record → inventory.record? record.id = some record) :
    (removal.apply inventory).Settles inventory (inventory.agenda removal.event).assignments := by
  have named : (inventory.agenda removal.event).assignments.map Assignment.networkId =
      removal.reaches inventory := by
    rw [removal.agenda_event, List.map_map]
    exact List.map_id _
  refine ⟨fun mem => ?_, fun {networkId} others => ?_⟩
  · rw [removal.agenda_event] at mem
    obtain ⟨networkId, _, rfl⟩ := List.mem_map.mp mem
    refine ⟨_, mayOwn_owner (removal.apply inventory) networkId, ?_⟩
    rw [(removal.shows_apply keyed (.inl rfl)).owner_eq, removal.ofOwner_strip]
  · rw [named] at others
    cases removal with
    | bgpvpn record =>
      have known := recorded record rfl
      rw [Removal.reaches, mem_reached, not_or] at others
      obtain ⟨unlisted, unreached⟩ := others
      have stays {other : Bgpvpn} (listed : other ∈ inventory.bgpvpns)
          (claims : networkId ∈ other.networks ∨
            ∃ routerId ∈ other.routers, networkId ∈ inventory.connected routerId) :
          other ∈ (inventory.removeBgpvpn record.id).bgpvpns := by
        refine List.mem_filter.mpr ⟨listed, decide_eq_true fun same => ?_⟩
        rw [eq_of_record? keyed known listed same] at claims
        exact claims.elim unlisted unreached
      refine .of_iff (fun other => ?_) fun _ other => ?_
      · constructor
        · exact fun ⟨listed, own⟩ => ⟨List.mem_of_mem_filter listed, own⟩
        · exact fun ⟨listed, own⟩ => ⟨stays listed (.inl own), own⟩
      · constructor
        · exact fun ⟨listed, reached⟩ => ⟨List.mem_of_mem_filter listed, reached⟩
        · exact fun ⟨listed, reached⟩ => ⟨stays listed (.inr reached), reached⟩
    | networkAssociation association =>
      have apart : networkId ≠ association.networkId := fun same =>
        others (List.mem_singleton.mpr same)
      refine .of_modify keyed (fun bgpvpn _ _ => ?_) (fun _ _ _ _ _ _ => .rfl) fun _ _ _ => rfl
      rw [List.mem_filter]
      exact and_iff_left (decide_eq_true apart)
    | routerAssociation association =>
      refine .of_modify keyed (fun _ _ _ => .rfl) (fun free bgpvpn _ _ routerId reached => ?_)
        fun _ _ _ => rfl
      rw [List.mem_filter]
      refine and_iff_left (decide_eq_true ?_)
      rintro rfl
      have shown := direct_eq_nil_iff.mpr free
      exact others (List.mem_filter.mpr ⟨reached, List.isEmpty_iff.mpr shown⟩)

theorem mem_connected_attachThrough {portId routerId target subnetId : String}
    (fresh : portId ∉ inventory.ports.map Port.id) {other : String} :
    networkId ∈ (inventory.attachThrough portId routerId target subnetId).connected other ↔
      networkId ∈ inventory.connected other ∨ routerId = other ∧ target = networkId := by
  rw [mem_connected, mem_connected, ports_attachThrough fresh]
  constructor
  · rintro ⟨port, listed, isInterface, own, on⟩
    rcases List.mem_append.mp listed with old | new
    · exact .inl ⟨port, old, isInterface, own, on⟩
    · rw [List.mem_singleton.mp new] at own on
      exact .inr ⟨own, on⟩
  · rintro (⟨port, listed, attached⟩ | ⟨rfl, rfl⟩)
    · exact ⟨port, List.mem_append_left _ listed, attached⟩
    · exact ⟨_, List.mem_append_right _ (List.mem_singleton.mpr rfl), rfl, rfl, rfl⟩

theorem exists_ofRouter {bgpvpn : Bgpvpn} (record : bgpvpn ∈ inventory.bgpvpns) {routerId : String}
    (own : routerId ∈ bgpvpn.routers) :
    ∃ first, inventory.ofRouter routerId .nothing = some first := by
  refine Option.isSome_iff_exists.mp (List.find?_isSome.mpr ⟨bgpvpn, record, ?_⟩)
  have known : bgpvpn.hasRouter routerId = true := List.contains_iff_mem.mpr own
  rw [known]
  rfl

theorem settles_attachThrough {portId routerId target subnetId : String}
    (fresh : portId ∉ inventory.ports.map Port.id) :
    (inventory.attachThrough portId routerId target subnetId).Settles inventory
      ((inventory.attachThrough portId routerId target subnetId).agenda
        (.routerInterfaceCreated routerId
          (.routerInterface portId routerId target subnetId))).assignments := by
  have covers (networkId : String) (apart : (∀ other, ¬inventory.Direct networkId other) →
      target = networkId → inventory.ofRouter routerId .nothing = none) :
      (inventory.attachThrough portId routerId target subnetId).Covers inventory networkId := by
    refine .of_iff (fun _ => .rfl) fun free bgpvpn => ?_
    constructor
    · rintro ⟨record, other, own, reached⟩
      refine ⟨record, other, own, ?_⟩
      rcases (mem_connected_attachThrough fresh).mp reached with old | ⟨rfl, here⟩
      · exact old
      · obtain ⟨first, found⟩ : ∃ first, inventory.ofRouter routerId .nothing = some first :=
          exists_ofRouter record own
        rw [apart free here] at found
        cases found
    · rintro ⟨record, other, own, reached⟩
      exact ⟨record, other, own, (mem_connected_attachThrough fresh).mpr (.inl reached)⟩
  have same : (inventory.attachThrough portId routerId target subnetId).ofRouter routerId .nothing =
      inventory.ofRouter routerId .nothing := rfl
  rw [agenda, same]
  cases found : inventory.ofRouter routerId .nothing with
  | none => exact ⟨fun mem => (by cases mem), fun _ => covers _ fun _ _ => found⟩
  | some bgpvpn =>
    obtain ⟨record, own, _⟩ := ofRouter_eq_some found
    refine ⟨fun mem => ?_, fun others => covers _ fun free same => absurd ?_ others⟩
    · obtain ⟨here, free, owned⟩ := mem_unshielded.mp mem
      have unshielded := direct_eq_nil_iff.mp free
      refine ⟨some bgpvpn, .inr ⟨unshielded, record, routerId, own, ?_⟩, by rw [owned]⟩
      rw [List.mem_singleton.mp here]
      exact (mem_connected_attachThrough fresh).mpr (.inr ⟨rfl, rfl⟩)
    · refine mem_networks_unshielded.mpr ⟨List.mem_singleton.mpr same.symm, ?_⟩
      exact direct_eq_nil_iff.mpr free

theorem mem_connected_removePort (keyed : inventory.Keyed) {port : Port}
    (listed : port ∈ inventory.ports) (apart : networkId ≠ port.networkId) {routerId : String} :
    networkId ∈ (inventory.removePort port.id).connected routerId ↔
      networkId ∈ inventory.connected routerId := by
  rw [mem_connected, mem_connected]
  constructor
  · rintro ⟨other, there, attached⟩
    exact ⟨other, List.mem_of_mem_filter there, attached⟩
  · rintro ⟨other, there, isInterface, own, on⟩
    refine ⟨other, List.mem_filter.mpr ⟨there, decide_eq_true fun same => ?_⟩, isInterface, own, on⟩
    obtain rfl := List.inj_on_of_nodup_map keyed.ports there listed same
    exact apart on.symm

/-- Once a port is gone, its router does not stand on the subnet any more. -/
theorem interfacesOn_removePort (wired : inventory.Wired) {port : Port}
    (listed : port ∈ inventory.ports) (isInterface : port.isRouterInterface = true)
    {subnetId : String} (on : subnetId ∈ port.subnetIds) :
    (inventory.removePort port.id).interfacesOn port.networkId
        (.routerInterface port.deviceId subnetId) =
      (inventory.removePort port.id).interfacesOn port.networkId .nothing := by
  apply List.filter_congr
  intro other there
  obtain ⟨listed', apart⟩ := List.mem_filter.mp there
  have on' : port.onSubnet subnetId = true :=
    (Bool.or_eq_true ..).mpr (.inr (List.contains_iff_mem.mpr on))
  have kept (isInterface' : other.isRouterInterface = true)
      (sameNetwork : other.networkId = port.networkId) :
      (Departing.routerInterface port.deviceId subnetId).dropsPort other = false := by
    rw [← Bool.not_eq_true, Departing.dropsPort, Bool.and_eq_true]
    rintro ⟨sameRouter, stands⟩
    have same := wired.single listed' listed isInterface' isInterface (of_decide_eq_true sameRouter)
      sameNetwork stands on'
    exact of_decide_eq_true apart (congrArg Port.id same)
  by_cases attached : other.isRouterInterface = true ∧ other.networkId = port.networkId
  · rw [kept attached.1 attached.2]
    rfl
  · have elsewhere : (other.isRouterInterface && other.networkId = port.networkId) = false := by
      simpa using attached
    rw [elsewhere, Bool.false_and, Bool.false_and]

theorem settles_removePort (keyed : inventory.Keyed) (wired : inventory.Wired) {port : Port}
    (listed : port ∈ inventory.ports) (isInterface : port.isRouterInterface = true)
    {subnetId : String} (on : subnetId ∈ port.subnetIds) :
    (inventory.removePort port.id).Settles inventory
      ((inventory.removePort port.id).agenda
        (.routerInterfaceDeleted port.deviceId subnetId)).assignments := by
  have found : ((inventory.removePort port.id).subnets.find? fun subnet => subnet.id = subnetId) =
      some ⟨subnetId, port.networkId⟩ := wired.find?_subnet keyed listed isInterface on
  have owner_eq : (inventory.removePort port.id).owner port.networkId
      (.routerInterface port.deviceId subnetId) =
        (inventory.removePort port.id).owner port.networkId .nothing := by
    rw [owner, owner, derived, derived, interfacesOn_removePort wired listed isInterface on]
    rfl
  rw [agenda]
  simp only [found]
  refine ⟨fun mem => ?_, fun {networkId} others => .of_iff (fun _ => .rfl) fun _ bgpvpn => ?_⟩
  · rw [List.mem_singleton.mp mem]
    exact ⟨_, mayOwn_owner (inventory.removePort port.id) port.networkId, congrArg _ owner_eq⟩
  · have apart : networkId ≠ port.networkId := fun same => others (List.mem_singleton.mpr same)
    have reached (routerId : String) :
        networkId ∈ (inventory.removePort port.id).connected routerId ↔
          networkId ∈ inventory.connected routerId := mem_connected_removePort keyed listed apart
    simp only [Routed, reached]
    rfl

end EvpnMetadata.Topology.Inventory
