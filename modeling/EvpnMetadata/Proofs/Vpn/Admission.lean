import EvpnMetadata.Proofs.Procedure
import EvpnMetadata.Vpn.Admission

/-! # Admission

A record is accepted with a type and a VNI of the valid range.  A revision of such a record is
accepted if and only if the new record keeps both, and whatever is refused is at fault itself.
-/

namespace EvpnMetadata.Vpn

def IsVni (vni : UInt32) : Prop := 1 ≤ vni.toNat ∧ vni.toNat ≤ 16777215

theorem isVni_iff {vni : UInt32} : IsVni vni ↔ vni ≠ 0 ∧ ¬ largestVni < vni := by
  rw [IsVni, ← UInt32.toNat_inj.ne, UInt32.lt_iff_toNat_lt, Nat.not_lt]
  exact and_congr_left' Nat.one_le_iff_ne_zero

namespace Bgpvpn

variable {bgpvpn : Bgpvpn}

/-- The type is judged first, and a VNI outside of its range after it. -/
theorem accept_eq_ok_iff {vpnType : VpnType} : bgpvpn.accept = .ok vpnType ↔
    bgpvpn.type = .ok vpnType ∧ ∃ vni, bgpvpn.vni = some vni ∧ IsVni vni := by
  rw [accept]
  cases bgpvpn.type with
  | error fault => exact iff_of_false nofun nofun
  | ok known =>
    cases bgpvpn.vni with
    | none => exact iff_of_false nofun nofun
    | some vni =>
      simp only [Option.some.injEq, exists_eq_left', isVni_iff]
      change (if vni = 0 then _ else if largestVni < vni then _ else _) = _ ↔ _
      split_ifs with zero above
      · exact iff_of_false nofun fun ⟨_, nonzero, _⟩ => nonzero zero
      · exact iff_of_false nofun fun ⟨_, _, below⟩ => below above
      · exact (and_iff_left ⟨zero, above⟩).symm

theorem type_of_accept {vpnType : VpnType} (accepted : bgpvpn.accept = .ok vpnType) :
    bgpvpn.type = .ok vpnType :=
  (accept_eq_ok_iff.mp accepted).1

theorem vni_of_accept {vpnType : VpnType} (accepted : bgpvpn.accept = .ok vpnType) :
    bgpvpn.vni ≠ none := by
  obtain ⟨-, vni, numbered, -⟩ := accept_eq_ok_iff.mp accepted
  exact numbered ▸ Option.some_ne_none vni

theorem isValidation_of_type {fault : Fault} (refused : bgpvpn.type = .error fault) :
    fault.isValidation = true := by
  rw [type, VpnType.ofText] at refused
  split at refused <;> cases refused
  rfl

theorem isValidation_of_accept {fault : Fault} (refused : bgpvpn.accept = .error fault) :
    fault.isValidation = true := by
  rcases of_bind_eq_error refused with unnamed | ⟨vpnType, -, refused⟩
  · exact isValidation_of_type unnamed
  · split at refused
    · cases refused
      rfl
    · split_ifs at refused <;> cases refused <;> rfl

theorem type_of_requireL3 {bgpvpn : Bgpvpn} (accepted : bgpvpn.requireL3 = .ok ()) :
    bgpvpn.type = .ok .l3 := by
  obtain ⟨vpnType, judged, rest⟩ := exists_of_bind_eq_ok accepted
  cases vpnType with
  | l3 => exact judged
  | l2 => cases rest

theorem requireL3_eq {bgpvpn : Bgpvpn} (judged : bgpvpn.type = .ok .l3) :
    bgpvpn.requireL3 = .ok () := by
  rw [requireL3, judged]
  rfl

theorem requireL3_eq_ok_iff : bgpvpn.requireL3 = .ok () ↔ bgpvpn.type = .ok .l3 :=
  ⟨type_of_requireL3, requireL3_eq⟩

end Bgpvpn

namespace Revision

variable {revision : Revision} {fault : Fault}

def keepType (revision : Revision) (newType : VpnType) : Except Fault Unit := do
  if let .ok oldType := revision.old.type then
    if oldType ≠ newType then
      throw (.invalidAttribute "type"
        ("cannot change from " ++ oldType.name ++ " to " ++ newType.name))

def keepVni (revision : Revision) : Except Fault Unit := do
  if let some oldVni := revision.old.vni then
    if revision.new.vni ≠ some oldVni then
      throw (.invalidAttribute "vni" ("cannot change from " ++ Text.Decimal.write oldVni.toNat
        ++ " to " ++ vniText revision.new.vni))

theorem accept_eq (revision : Revision) : revision.accept =
    revision.new.accept >>= fun newType => revision.keepType newType >>= fun _ =>
      revision.keepVni := by
  rw [accept]
  congr 1
  funext newType
  rw [keepType]
  cases revision.old.type with
  | error fault => rfl
  | ok oldType =>
    by_cases same : oldType = newType
    · simp only [same, ne_eq, not_true_eq_false, if_false]
      rfl
    · simp only [same, ne_eq, not_false_eq_true, if_true]
      rfl

theorem keepType_eq_ok_iff {newType : VpnType} : revision.keepType newType = .ok () ↔
    ∀ oldType, revision.old.type = .ok oldType → oldType = newType := by
  rw [keepType]
  cases revision.old.type with
  | error fault => exact iff_of_true rfl nofun
  | ok oldType =>
    simp only [Except.ok.injEq, forall_eq', ne_eq, ite_not]
    split_ifs with same
    · exact iff_of_true rfl same
    · exact iff_of_false nofun same

theorem keepVni_eq_ok_iff : revision.keepVni = .ok () ↔
    ∀ oldVni, revision.old.vni = some oldVni → revision.new.vni = some oldVni := by
  rw [keepVni]
  cases revision.old.vni with
  | none => exact iff_of_true rfl nofun
  | some oldVni =>
    simp only [Option.some.injEq, forall_eq', ne_eq, ite_not]
    split_ifs with same
    · exact iff_of_true rfl same
    · exact iff_of_false nofun same

theorem isValidation_of_keepType {newType : VpnType}
    (refused : revision.keepType newType = .error fault) : fault.isValidation = true := by
  rw [keepType] at refused
  split at refused
  · split_ifs at refused <;> cases refused
    rfl
  · cases refused

theorem isValidation_of_keepVni (refused : revision.keepVni = .error fault) :
    fault.isValidation = true := by
  rw [keepVni] at refused
  split at refused
  · split_ifs at refused <;> cases refused
    rfl
  · cases refused

theorem accept_eq_ok_iff : revision.accept = .ok () ↔
    ∃ newType, revision.new.accept = .ok newType ∧
      (∀ oldType, revision.old.type = .ok oldType → oldType = newType) ∧
      ∀ oldVni, revision.old.vni = some oldVni → revision.new.vni = some oldVni := by
  simp only [accept_eq, ← keepType_eq_ok_iff, ← keepVni_eq_ok_iff]
  constructor
  · intro accepted
    obtain ⟨newType, alone, accepted⟩ := exists_of_bind_eq_ok accepted
    obtain ⟨_, type, vni⟩ := exists_of_bind_eq_ok accepted
    exact ⟨newType, alone, type, vni⟩
  · rintro ⟨newType, alone, type, vni⟩
    rw [alone]
    change (revision.keepType newType >>= fun _ => revision.keepVni) = _
    rw [type]
    exact vni

theorem isValidation_of_accept (refused : revision.accept = .error fault) :
    fault.isValidation = true := by
  rw [accept_eq] at refused
  rcases of_bind_eq_error refused with alone | ⟨newType, -, refused⟩
  · exact Bgpvpn.isValidation_of_accept alone
  · rcases of_bind_eq_error refused with type | ⟨_, -, vni⟩
    · exact isValidation_of_keepType type
    · exact isValidation_of_keepVni vni

theorem type_of_accept (accepted : revision.accept = .ok ()) {vpnType : VpnType}
    (valid : revision.old.type = .ok vpnType) : revision.new.type = .ok vpnType := by
  obtain ⟨newType, alone, keeps, -⟩ := accept_eq_ok_iff.mp accepted
  rw [keeps vpnType valid, Bgpvpn.type_of_accept alone]

theorem vni_of_accept (accepted : revision.accept = .ok ()) : revision.new.vni ≠ none := by
  obtain ⟨newType, alone, -⟩ := accept_eq_ok_iff.mp accepted
  exact Bgpvpn.vni_of_accept alone

/-- The ways in which a new record does not follow an old one. -/
inductive Unfit (revision : Revision) : Prop where
  | untyped {fault : Fault} (unnamed : revision.new.type = .error fault)
  | unnumbered (missing : revision.new.vni = none)
  | zero (zero : revision.new.vni = some 0)
  | tooLarge {vni : UInt32} (numbered : revision.new.vni = some vni) (above : 16777215 < vni.toNat)
  | retyped {oldType newType : VpnType} (before : revision.old.type = .ok oldType)
    (after : revision.new.type = .ok newType) (differ : newType ≠ oldType)
  | renumbered {oldVni newVni : UInt32} (before : revision.old.vni = some oldVni)
    (after : revision.new.vni = some newVni) (differ : newVni ≠ oldVni)

/-- Nothing else is refused, whether the old record was valid or not. -/
theorem accept_eq_ok_iff_not_unfit : revision.accept = .ok () ↔ ¬ revision.Unfit := by
  rw [accept_eq_ok_iff]
  constructor
  · rintro ⟨newType, alone, type, vni⟩ unfit
    obtain ⟨named, number, numbered, positive, below⟩ := Bgpvpn.accept_eq_ok_iff.mp alone
    cases unfit with
    | untyped unnamed => cases unnamed.symm.trans named
    | unnumbered missing => cases missing.symm.trans numbered
    | zero zero =>
      cases zero.symm.trans numbered
      exact absurd positive (by decide)
    | tooLarge other above =>
      cases other.symm.trans numbered
      exact absurd above (Nat.not_lt.mpr below)
    | retyped before after differ =>
      cases after.symm.trans named
      exact differ (type _ before).symm
    | renumbered before after differ =>
      exact differ (Option.some.inj (after.symm.trans (vni _ before)))
  · intro fit
    cases named : revision.new.type with
    | error fault => exact absurd (.untyped named) fit
    | ok newType =>
      cases numbered : revision.new.vni with
      | none => exact absurd (.unnumbered numbered) fit
      | some number =>
        have isVni : IsVni number := by
          refine isVni_iff.mpr ⟨?_, fun above => fit (.tooLarge numbered ?_)⟩
          · rintro rfl
            exact fit (.zero numbered)
          · exact UInt32.lt_iff_toNat_lt.mp above
        refine ⟨newType, Bgpvpn.accept_eq_ok_iff.mpr ⟨named, number, numbered, isVni⟩,
          fun oldType before => ?_, fun oldVni before => ?_⟩
        · by_contra differ
          exact fit (.retyped before named (Ne.symm differ))
        · by_contra differ
          exact fit (.renumbered before numbered fun same => differ (congrArg some same))

end Revision

end EvpnMetadata.Vpn
