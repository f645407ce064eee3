import EvpnMetadata.Proofs.Reconcile.Changes
import EvpnMetadata.Proofs.Reconcile.Operation
import EvpnMetadata.Proofs.Vpn.Admission

/-! # Upkeep

An operation that is admissible and accepted leaves a sound inventory, and settles the change that
it makes.
-/

namespace EvpnMetadata.Topology.Inventory

open Vpn Reconcile

variable {inventory : Inventory}

/-- An inventory as operations find it and leave it. -/
structure Sound (inventory : Inventory) : Prop where
  built : inventory.Built
  wired : inventory.Wired
  numbered (bgpvpn : Bgpvpn) (record : bgpvpn ∈ inventory.bgpvpns) : bgpvpn.vni ≠ none

theorem Sound.numbered_modify (sound : inventory.Sound) {bgpvpnId : String}
    {change : Bgpvpn → Bgpvpn} (kept : ∀ bgpvpn, (change bgpvpn).vni = bgpvpn.vni)
    (bgpvpn : Bgpvpn)
    (record : bgpvpn ∈ (inventory.modifyBgpvpn bgpvpnId change).bgpvpns) : bgpvpn.vni ≠ none := by
  change bgpvpn ∈ modifyFirst _ change inventory.bgpvpns at record
  rw [modifyFirst_eq_map sound.built.keyed.bgpvpns] at record
  obtain ⟨other, known, rfl⟩ := List.mem_map.mp record
  have numbered := sound.numbered other known
  split
  · rw [kept]
    exact numbered
  · exact numbered

theorem Sound.putBgpvpn (sound : inventory.Sound) {bgpvpn : Bgpvpn} (vni : bgpvpn.vni ≠ none) :
    (inventory.putBgpvpn bgpvpn).Sound where
  built := .putBgpvpn _ sound.built
  wired := sound.wired.congr rfl rfl rfl
  numbered other record := by
    rcases mem_of_mem_upsert record with rfl | known
    · exact vni
    · exact sound.numbered other known

theorem Sound.apply (sound : inventory.Sound) (removal : Removal) :
    (removal.apply inventory).Sound := by
  cases removal with
  | bgpvpn record =>
    exact ⟨.removeBgpvpn _ sound.built, sound.wired.congr rfl rfl rfl,
      fun other listed => sound.numbered other (List.mem_of_mem_filter listed)⟩
  | networkAssociation association =>
    exact ⟨.dissociateNetwork _ _ sound.built, sound.wired.congr rfl rfl rfl,
      sound.numbered_modify fun _ => rfl⟩
  | routerAssociation association =>
    exact ⟨.dissociateRouter _ _ sound.built, sound.wired.congr rfl rfl rfl,
      sound.numbered_modify fun _ => rfl⟩

end EvpnMetadata.Topology.Inventory

namespace EvpnMetadata.Reconcile.Operation

open Vpn EvpnMetadata.Topology Switch Lifecycle

variable {inventory : Inventory} {operation : Operation}

/-- A BGPVPN is created with a type and a VNI of the valid range, an update keeps both, and a router
is associated with a known BGPVPN of layer three. -/
def Valid (inventory : Inventory) : Operation → Prop
  | createBgpvpn bgpvpn =>
    ∃ vpnType, bgpvpn.type = .ok vpnType ∧ ∃ vni, bgpvpn.vni = some vni ∧ IsVni vni
  | updateBgpvpn old new => ¬(Revision.mk old new).Unfit
  | associateRouter association =>
    ∃ bgpvpn, inventory.record? association.bgpvpnId = some bgpvpn ∧ bgpvpn.type = .ok .l3
  | _ => True

/-- The valid operations are accepted, and no others. -/
theorem accepted_iff_valid :
    (operation.preparation inventory).ending = .ok () ↔ operation.Valid inventory := by
  cases operation with
  | createBgpvpn bgpvpn =>
    change discard bgpvpn.accept = .ok () ↔ _
    rw [discard_eq_ok_iff]
    exact exists_congr fun _ => Bgpvpn.accept_eq_ok_iff
  | updateBgpvpn old new => exact Revision.accept_eq_ok_iff_not_unfit
  | associateRouter association =>
    change (inventory.agendaOfRecord _ _).ending = .ok () ↔
      ∃ bgpvpn, inventory.record? association.bgpvpnId = some bgpvpn ∧ bgpvpn.type = .ok .l3
    rw [Inventory.agendaOfRecord]
    cases inventory.record? association.bgpvpnId with
    | none => simp
    | some bgpvpn =>
      simp only [Option.some.injEq, exists_eq_left']
      exact Bgpvpn.requireL3_eq_ok_iff
  | remove removal =>
    exact iff_of_true (congrArg Agenda.ending (removal.agenda_event inventory)) trivial
  | _ => exact iff_of_true rfl trivial

instance (inventory : Inventory) : DecidablePred (Valid inventory) :=
  fun _ => decidable_of_iff _ accepted_iff_valid

theorem sound_commit (sound : inventory.Sound) (admissible : operation.Admissible inventory)
    (accepted : (operation.preparation inventory).ending = .ok ()) :
    (operation.commit inventory).Sound := by
  cases operation with
  | createBgpvpn bgpvpn =>
    change discard bgpvpn.accept = .ok () at accepted
    cases judged : bgpvpn.accept with
    | ok vpnType => exact sound.putBgpvpn (Bgpvpn.vni_of_accept judged)
    | error fault =>
      rw [judged] at accepted
      cases accepted
  | updateBgpvpn old new => exact sound.putBgpvpn (Revision.vni_of_accept accepted)
  | remove removal => exact sound.apply removal
  | associateNetwork association =>
    refine ⟨.associateNetwork _ _ sound.built, sound.wired.congr rfl rfl rfl, ?_⟩
    rw [commit, Inventory.associateNetwork_eq]
    exact sound.numbered_modify fun _ => rfl
  | associateRouter association =>
    refine ⟨.associateRouter _ _ sound.built, sound.wired.congr rfl rfl rfl, ?_⟩
    rw [commit, Inventory.associateRouter_eq]
    exact sound.numbered_modify fun _ => rfl
  | createPortAssociation | updatePortAssociation | deletePortAssociation => exact sound
  | attachInterface portId routerId networkId subnetId =>
    obtain ⟨fresh, steady, vacant⟩ := admissible
    exact ⟨.addPort _ (.addSubnet _ _ (.addRouter _ sound.built)),
      sound.wired.attachThrough fresh steady vacant, sound.numbered⟩
  | detachInterface port subnetId =>
    exact ⟨.removePort _ sound.built, sound.wired.removePort _, sound.numbered⟩

/-- Only a removal visits networks before it is committed. -/
theorem assignments_preparation (inventory : Inventory) (operation : Operation) :
    (operation.preparation inventory).assignments =
      match operation with
      | remove removal => (inventory.agenda removal.event).assignments
      | _ => [] := by
  cases operation with
  | associateRouter association =>
    change (inventory.agendaOfRecord _ _).assignments = []
    rw [Inventory.agendaOfRecord]
    split <;> rfl
  | _ => rfl

theorem settles (sound : inventory.Sound) (admissible : operation.Admissible inventory)
    (accepted : (operation.preparation inventory).ending = .ok ()) :
    (operation.commit inventory).Settles inventory (operation.assignments inventory) := by
  have keyed := sound.built.keyed
  rw [assignments, assignments_preparation]
  cases operation with
  | createBgpvpn bgpvpn =>
    obtain ⟨fresh, unlisted, unrouted⟩ := admissible
    exact Inventory.settles_create fresh unlisted unrouted
  | updateBgpvpn old new =>
    obtain ⟨known, networks, routers⟩ := admissible
    simp only [List.nil_append]
    exact Inventory.settles_update keyed known networks routers
  | remove removal =>
    have silent : ((removal.apply inventory).agenda removal.notice).assignments = [] := by
      cases removal <;> rfl
    simp only [commit, notice, silent, List.append_nil]
    refine Inventory.settles_apply keyed removal fun record same => ?_
    subst same
    exact admissible
  | associateNetwork association => exact Inventory.settles_associateNetwork keyed association
  | associateRouter association =>
    exact Inventory.settles_associateRouter keyed sound.wired association accepted
  | createPortAssociation | updatePortAssociation | deletePortAssociation =>
    exact ⟨fun mem => (by cases mem), fun _ => .of_iff (fun _ => .rfl) fun _ _ => .rfl⟩
  | attachInterface portId routerId networkId subnetId =>
    exact Inventory.settles_attachThrough admissible.1
  | detachInterface port subnetId =>
    obtain ⟨listed, isInterface, on⟩ := admissible
    exact Inventory.settles_removePort keyed sound.wired listed isInterface on

/-- An admissible operation with valid records is committed, and all that it calls for is settled. -/
theorem perform_of_valid (naming : Naming) {site : Site} (sound : site.inventory.Sound)
    (admissible : operation.Admissible site.inventory) (valid : operation.Valid site.inventory) :
    (operation.perform naming site).inventory = operation.commit site.inventory ∧
      (operation.perform naming site).switches.switches =
        effects naming (operation.assignments site.inventory) site.switches.switches := by
  have accepted := accepted_iff_valid.mpr valid
  exact perform_of_accepted naming accepted (publishable_of_settles
    (settles sound admissible accepted) (sound_commit sound admissible accepted).numbered)

/-- An operation with other records changes nothing. -/
theorem perform_of_invalid (naming : Naming) {site : Site}
    (invalid : ¬operation.Valid site.inventory) :
    (operation.perform naming site).inventory = site.inventory ∧
      (operation.perform naming site).switches.switches = site.switches.switches := by
  cases judged : (operation.preparation site.inventory).ending with
  | ok done => exact absurd (accepted_iff_valid.mp judged) invalid
  | error fault => exact perform_of_refused naming judged

end EvpnMetadata.Reconcile.Operation
