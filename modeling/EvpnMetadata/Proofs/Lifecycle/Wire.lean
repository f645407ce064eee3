import EvpnMetadata.Lifecycle.Wire
import EvpnMetadata.Proofs.Json.Number
import EvpnMetadata.Proofs.Vpn.Record

/-! # Events read back

Every event is decoded as it was encoded, whatever its records hold.
-/

namespace EvpnMetadata.Lifecycle

open Vpn

theorem Phase.ofJson?_toJson (phase : Phase) : ofJson? phase.toJson = some phase := by
  cases phase <;> rfl

namespace Event

section

variable {α : Type} {read : Json → Option α} {json json' : Json} {subject subject' : α}

theorem ofSubject?_record (make : Phase → α → Event) {name : String} (other : name ≠ "phase")
    (same : read json = some subject) (phase : Phase) :
    ofSubject? make name read (.record [("phase", phase.toJson), (name, json)]) =
      some (make phase subject) := by
  rw [ofSubject?, Json.fields?_record (by simp [other.symm])]
  simp [List.lookup_cons, beq_false_of_ne other, Json.required, Phase.ofJson?_toJson, same]

theorem ofChange?_record (make : Phase → α → α → Event) (same : read json = some subject)
    (same' : read json' = some subject') (phase : Phase) :
    ofChange? make read (.record [("phase", phase.toJson), ("old", json), ("new", json')]) =
      some (make phase subject subject') := by
  rw [ofChange?, Json.fields?_record (by simp)]
  simp [List.lookup_cons, Json.required, Phase.ofJson?_toJson, same, same']

theorem ofInterface?_record (make : String → α → Event) {name : String} (other : name ≠ "router_id")
    (same : read json = some subject) (routerId : String) :
    ofInterface? make name read (.record [("router_id", .text routerId), (name, json)]) =
      some (make routerId subject) := by
  rw [ofInterface?, Json.fields?_record (by simp [other.symm])]
  simp [List.lookup_cons, beq_false_of_ne other, Json.required, Json.text, Json.text?, same]

end

theorem ofKind?_members (event : Event) :
    ofKind? event.kind (.record event.members) = some event := by
  cases event with
  | bgpvpnCreate phase bgpvpn => exact ofSubject?_record _ (by decide) bgpvpn.ofJson?_toJson phase
  | bgpvpnUpdate phase old new =>
    exact ofChange?_record _ old.ofJson?_toJson new.ofJson?_toJson phase
  | bgpvpnDelete phase bgpvpn => exact ofSubject?_record _ (by decide) bgpvpn.ofJson?_toJson phase
  | networkAssociationCreate phase association =>
    exact ofSubject?_record _ (by decide) association.ofJson?_toJson phase
  | networkAssociationDelete phase association =>
    exact ofSubject?_record _ (by decide) association.ofJson?_toJson phase
  | routerAssociationCreate phase association =>
    exact ofSubject?_record _ (by decide) association.ofJson?_toJson phase
  | routerAssociationUpdate phase old new =>
    exact ofChange?_record _ old.ofJson?_toJson new.ofJson?_toJson phase
  | routerAssociationDelete phase association =>
    exact ofSubject?_record _ (by decide) association.ofJson?_toJson phase
  | portAssociationCreate phase association =>
    exact ofSubject?_record _ (by decide) association.ofJson?_toJson phase
  | portAssociationUpdate phase old new =>
    exact ofChange?_record _ old.ofJson?_toJson new.ofJson?_toJson phase
  | portAssociationDelete phase association =>
    exact ofSubject?_record _ (by decide) association.ofJson?_toJson phase
  | routerInterfaceCreated routerId port =>
    exact ofInterface?_record _ (by decide) port.ofJson?_toJson routerId
  | routerInterfaceDeleted routerId subnetId =>
    have read : Json.text? (.text subnetId) = some subnetId := rfl
    exact ofInterface?_record _ (by decide) read routerId

theorem nodup_members (event : Event) :
    ((("event", Json.text event.kind) :: event.members).map Prod.fst).Nodup := by
  cases event <;> simp [members]

theorem fits_members {inRange : Numeral → Bool} (accepts : AcceptsUInt32 inRange) (event : Event) :
    ∀ member ∈ event.members, member.2.Fits inRange 2 := by
  cases event <;> simp [members, Phase.toJson, (Json.Fits.text _).mono, Bgpvpn.fits_toJson accepts,
    (NetworkAssociation.fits_toJson _).mono, (RouterAssociation.fits_toJson _).mono,
    (PortAssociation.fits_toJson _).mono, Port.fits_toJson]

theorem fits_toJson {inRange : Numeral → Bool} (accepts : AcceptsUInt32 inRange) (event : Event) :
    event.toJson.Fits inRange 3 :=
  .record (List.forall_mem_cons.mpr
    ⟨(Json.Fits.text event.kind).mono (by decide), fits_members accepts event⟩)

theorem filter_toJson (event : Event) :
    ((("event", Json.text event.kind) :: event.members).map
        fun member => (some member.1, member.2)).filter (fun member => member.1 ≠ some "event") =
      event.members.map fun member => (some member.1, member.2) := by
  have fresh := (List.nodup_cons.mp event.nodup_members).1
  rw [List.map_cons, List.filter_cons_of_neg (by simp), List.filter_eq_self]
  intro written mapped
  obtain ⟨member, mem, rfl⟩ := List.mem_map.mp mapped
  have ne : member.1 ≠ "event" := fun same => fresh (List.mem_map.mpr ⟨member, mem, same⟩)
  simpa using ne

theorem ofJson?_toJson (event : Event) : ofJson? event.toJson = some event := by
  have accepts : AcceptsUInt32 Numeral.isInRange :=
    fun n => Numeral.isInRange_toDigits (Nat.lt_trans n.toNat_lt (by decide))
  obtain ⟨shallow, readable⟩ := fits_toJson accepts event
  have passes : (event.toJson.depth ≤ deepestNesting &&
      event.toJson.isReadable Numeral.isInRange) = true := by
    rw [readable, Bool.and_true]
    exact decide_eq_true (Nat.le_trans shallow (by decide))
  rw [ofJson?.eq_def, guard, if_pos passes]
  change (Json.memberOf? _ "event").bind _ = _
  rw [Json.memberOf?_record event.nodup_members]
  change ofKind? event.kind (.object (List.filter _ _)) = _
  rw [filter_toJson]
  exact event.ofKind?_members

/-- Every event is decoded from its text as it was. -/
theorem decode?_encode (event : Event) : decode? event.encode = some event := by
  have accepts : AcceptsUInt32 Numeral.isWellFormed := fun n =>
    Numeral.isWellFormed_toDigits n.toNat
  rw [decode?, encode, (fits_toJson accepts event).read?_render]
  exact event.ofJson?_toJson

end Event

end EvpnMetadata.Lifecycle
