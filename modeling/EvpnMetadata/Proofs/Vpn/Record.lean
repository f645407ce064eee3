import EvpnMetadata.Proofs.Json.Record
import EvpnMetadata.Proofs.Vpn.Revision
import EvpnMetadata.Vpn.Association
import EvpnMetadata.Vpn.Network

/-! # Records of VPNs read back

Every record is read back as it was written, with an unset number staying unset.
-/

namespace EvpnMetadata.Vpn

/-- A test that the numerals of all numbers pass that a record can hold. -/
def AcceptsUInt32 (inRange : Numeral → Bool) : Prop :=
  ∀ n : UInt32, inRange { whole := Nat.toDigits 10 n.toNat } = true

variable {inRange : Numeral → Bool}

namespace Bgpvpn

theorem fields_toJson (bgpvpn : Bgpvpn) : bgpvpn.toJson.fields? fieldNames = some [
    some (.text bgpvpn.id), some (.text bgpvpn.name), some (.text bgpvpn.vpnType),
    bgpvpn.vni.map fun vni => .nat vni.toNat, some (.texts bgpvpn.routeTargets),
    some (.texts bgpvpn.importTargets), some (.texts bgpvpn.exportTargets),
    some (.texts bgpvpn.routeDistinguishers), bgpvpn.localPref.map fun pref => .nat pref.toNat,
    some (.texts bgpvpn.networks), some (.texts bgpvpn.routers), some (.texts bgpvpn.ports),
    some (.text bgpvpn.projectId), some (.text bgpvpn.tenantId)] := by
  have distinct := bgpvpn.nodup_setFields
  rw [toJson, Json.fields?_record (by simpa [List.map_map, Function.comp_def] using distinct)]
  obtain ⟨id, name, vpnType, vni, routeTargets, importTargets, exportTargets, routeDistinguishers,
    localPref, networks, routers, ports, projectId, tenantId⟩ := bgpvpn
  cases vni <;> cases localPref <;> rfl

theorem ofJson?_toJson (bgpvpn : Bgpvpn) : ofJson? bgpvpn.toJson = some bgpvpn := by
  rw [ofJson?, fields_toJson, Option.bind_eq_bind, Option.bind_some]
  simp only [Json.withDefault_uint32, Json.withDefault_texts]
  rfl

theorem Field.toJson_injective : Function.Injective Field.toJson := by
  intro first second same
  cases first with
  | text value =>
    cases second with
    | text other => exact congrArg Field.text (Option.some.inj (congrArg Json.text? same))
    | number other => cases same
    | texts others => cases same
  | number value =>
    cases second with
    | text other => cases same
    | number other =>
      have read := congrArg Json.uint32? same
      rw [toJson, toJson, Json.uint32?_nat, Json.uint32?_nat] at read
      exact congrArg Field.number (Option.some.inj read)
    | texts others => cases same
  | texts values =>
    cases second with
    | text other => cases same
    | number other => cases same
    | texts others =>
      have read := congrArg Json.texts? same
      rw [toJson, toJson, Json.texts?_texts, Json.texts?_texts] at read
      exact congrArg Field.texts (Option.some.inj read)

theorem lookup_map_toJson (fields : List (String × Field)) (key : String) :
    (fields.map fun field => (field.1, field.2.toJson)).lookup key =
      (FiniteMap.lookupEntry key fields).map Field.toJson := by
  induction fields with
  | nil => rfl
  | cons field rest ih =>
    rw [List.map_cons, List.lookup_cons, FiniteMap.lookupEntry, ih]
    by_cases same : key = field.1
    · simp [same]
    · simp [same, beq_eq_false_iff_ne.mpr same]

theorem fields?_toJson (bgpvpn : Bgpvpn) (key : String) :
    bgpvpn.toJson.fields? [key] = some [(bgpvpn.fieldMap.get? key).map Field.toJson] := by
  have distinct := bgpvpn.nodup_setFields
  rw [toJson, Json.fields?_record (by simpa [List.map_map, Function.comp_def] using distinct),
    get?_fieldMap, List.map_singleton, lookup_map_toJson]

/-- Records are written alike in a member exactly if they agree on the field. -/
theorem fields?_toJson_eq_iff (first second : Bgpvpn) (key : String) :
    first.toJson.fields? [key] = second.toJson.fields? [key] ↔
      first.fieldMap.get? key = second.fieldMap.get? key := by
  rw [fields?_toJson, fields?_toJson, Option.some_inj, List.singleton_inj,
    (Option.map_injective Field.toJson_injective).eq_iff]

/-- A BGPVPN is written as one level of lists in an object. -/
theorem fits_toJson (accepts : AcceptsUInt32 inRange) (bgpvpn : Bgpvpn) :
    bgpvpn.toJson.Fits inRange 2 := by
  refine .record fun member mem => ?_
  obtain ⟨field, -, rfl⟩ := List.mem_map.mp mem
  cases field.2 with
  | text value => exact (Json.Fits.text value).mono (by decide)
  | number value => exact (Json.Fits.number (accepts value)).mono (by decide)
  | texts values => exact .texts values

end Bgpvpn

namespace NetworkAssociation

theorem ofJson?_toJson (association : NetworkAssociation) :
    ofJson? association.toJson = some association := by
  rw [ofJson?, toJson, Json.fields?_record (by simp)]
  rfl

theorem fits_toJson (association : NetworkAssociation) : association.toJson.Fits inRange 1 :=
  .record (by simp [Json.Fits.text])

end NetworkAssociation

namespace RouterAssociation

theorem ofJson?_toJson (association : RouterAssociation) :
    ofJson? association.toJson = some association := by
  rw [ofJson?, toJson, Json.fields?_record (by simp)]
  rfl

theorem fits_toJson (association : RouterAssociation) : association.toJson.Fits inRange 1 :=
  .record (by simp [Json.Fits.text, Json.Fits.bool])

end RouterAssociation

namespace PortAssociation

theorem ofJson?_toJson (association : PortAssociation) :
    ofJson? association.toJson = some association := by
  rw [ofJson?, toJson, Json.fields?_record (by simp)]
  rfl

theorem fits_toJson (association : PortAssociation) : association.toJson.Fits inRange 1 :=
  .record (by simp [Json.Fits.text, Json.Fits.bool])

end PortAssociation

namespace Port

theorem ofJson?_toJson (port : Port) : ofJson? port.toJson = some port := by
  rw [ofJson?, toJson, Json.fields?_record (by simp)]
  change (Json.withDefault [] Json.texts? (some (.texts port.subnetIds))).bind _ = _
  rw [Json.withDefault_texts]
  rfl

theorem fits_toJson (port : Port) : port.toJson.Fits inRange 2 :=
  .record (by simp [(Json.Fits.text _).mono, Json.Fits.texts])

end Port

end EvpnMetadata.Vpn
