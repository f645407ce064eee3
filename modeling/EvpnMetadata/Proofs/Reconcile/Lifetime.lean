import EvpnMetadata.KeyValue.Connection
import EvpnMetadata.Proofs.Switch.Advertisement
import EvpnMetadata.Proofs.Vpn.Admission
import EvpnMetadata.Reconcile.Hooks

/-! # The life of a BGPVPN

Creating and updating a BGPVPN only judge it.  Each update compares two snapshots that follow one
another, and yet the type and the VNI of the first one are those of all, and what is published for
any of them says so.
-/

namespace EvpnMetadata.Reconcile

open Vpn Switch

section Judgements

variable (deployment : Deployment σ) (state : σ)

theorem play_beforeBgpvpnCreate (bgpvpn : Bgpvpn) :
    (beforeBgpvpnCreate bgpvpn).play deployment state =
      { result := discard bgpvpn.accept, state } := rfl

theorem play_beforeBgpvpnUpdate (old new : Bgpvpn) :
    (beforeBgpvpnUpdate old new).play deployment state =
      { result := (Revision.mk old new).accept, state } := rfl

end Judgements

/-- The snapshots of one BGPVPN, the latest first, each of them accepted when it replaced the one
before it. -/
inductive Lifetime (deployment : Deployment σ) : List Bgpvpn → Prop where
  | created {bgpvpn : Bgpvpn} {state : σ}
    (accepted : ((beforeBgpvpnCreate bgpvpn).play deployment state).result = .ok ()) :
    Lifetime deployment [bgpvpn]
  | updated {old new : Bgpvpn} {earlier : List Bgpvpn} {state : σ}
    (lived : Lifetime deployment (old :: earlier))
    (accepted : ((beforeBgpvpnUpdate old new).play deployment state).result = .ok ()) :
    Lifetime deployment (new :: old :: earlier)

structure HasIdentity (vpnType : VpnType) (vni : UInt32) (bgpvpn : Bgpvpn) : Prop where
  vpnType : bgpvpn.type = .ok vpnType
  vni : bgpvpn.vni = some vni

variable {deployment : Deployment σ} {vpnType : VpnType} {vni : UInt32}

/-- An accepted update keeps both, although it compares the VNI only with one that is set. -/
theorem HasIdentity.updated {old new : Bgpvpn} (identity : HasIdentity vpnType vni old)
    (accepted : (Revision.mk old new).accept = .ok ()) : HasIdentity vpnType vni new := by
  obtain ⟨-, -, -, number⟩ := Revision.accept_eq_ok_iff.mp accepted
  exact ⟨Revision.type_of_accept accepted identity.vpnType, number vni identity.vni⟩

/-- Over a whole life, the identity is the one of the first snapshot. -/
theorem Lifetime.exists_identity {snapshots : List Bgpvpn}
    (lived : Lifetime deployment snapshots) :
    ∃ vpnType vni, IsVni vni ∧ ∀ bgpvpn ∈ snapshots, HasIdentity vpnType vni bgpvpn := by
  induction lived with
  | @created bgpvpn state accepted =>
    rw [play_beforeBgpvpnCreate, discard_eq_ok_iff] at accepted
    obtain ⟨vpnType, judged⟩ := accepted
    obtain ⟨named, vni, numbered, isVni⟩ := Bgpvpn.accept_eq_ok_iff.mp judged
    exact ⟨vpnType, vni, isVni, List.forall_mem_singleton.mpr ⟨named, numbered⟩⟩
  | updated lived accepted ih =>
    obtain ⟨vpnType, vni, isVni, identity⟩ := ih
    rw [play_beforeBgpvpnUpdate] at accepted
    have kept := (identity _ List.mem_cons_self).updated accepted
    exact ⟨vpnType, vni, isVni, List.forall_mem_cons.mpr ⟨kept, identity⟩⟩

theorem HasIdentity.published {bgpvpn : Bgpvpn} (identity : HasIdentity vpnType vni bgpvpn) :
    ∃ bag advertised, Bag.ofBgpvpn bgpvpn = .ok bag ∧
      Advertisement.ofBag bag = .ok (some advertised) ∧
      advertised.vpnType = vpnType ∧ advertised.vni = vni := by
  have numbered : bgpvpn.vni ≠ none := identity.vni ▸ Option.some_ne_none vni
  obtain ⟨bag, advertised, built, read, tells⟩ := exists_tells numbered identity.vpnType
  exact ⟨bag, advertised, built, read,
    Except.ok.inj (tells.vpnType.symm.trans identity.vpnType),
    Option.some.inj (tells.vni.symm.trans identity.vni)⟩

/-- All snapshots of a BGPVPN have one type and one valid VNI, and are published with them.  An
update is refused exactly where the new record does not follow the old one.  What is refused is at
fault itself, and nothing was attempted for it. -/
theorem identity_fixed_for_life (deployment : Deployment σ) :
    (∀ snapshots, Lifetime deployment snapshots →
      ∃ vpnType vni, IsVni vni ∧ ∀ bgpvpn ∈ snapshots,
        bgpvpn.type = .ok vpnType ∧ bgpvpn.vni = some vni ∧
          ∃ bag advertised, Bag.ofBgpvpn bgpvpn = .ok bag ∧
            Advertisement.ofBag bag = .ok (some advertised) ∧
            advertised.vpnType = vpnType ∧ advertised.vni = vni) ∧
      ∀ old new state,
        (((beforeBgpvpnUpdate old new).play deployment state).result = .ok () ↔
          ¬ (Revision.mk old new).Unfit) ∧
        ∀ fault, ((beforeBgpvpnUpdate old new).play deployment state).result = .error fault →
          fault.isValidation = true ∧
            ((beforeBgpvpnUpdate old new).play deployment state).transactions = [] ∧
            ((beforeBgpvpnUpdate old new).play deployment state).state = state := by
  refine ⟨fun snapshots lived => ?_, fun old new state => ⟨?_, fun fault refused => ?_⟩⟩
  · obtain ⟨vpnType, vni, isVni, identity⟩ := lived.exists_identity
    exact ⟨vpnType, vni, isVni, fun bgpvpn mem =>
      ⟨(identity bgpvpn mem).vpnType, (identity bgpvpn mem).vni, (identity bgpvpn mem).published⟩⟩
  · rw [play_beforeBgpvpnUpdate]
    exact Revision.accept_eq_ok_iff_not_unfit
  · rw [play_beforeBgpvpnUpdate] at refused ⊢
    exact ⟨Revision.isValidation_of_accept refused, rfl, rfl⟩

def firstSnapshot : Bgpvpn where
  id := "v1"
  vpnType := "l3"
  vni := some 100

def respelledSnapshot : Bgpvpn := { firstSnapshot with vpnType := "L3", localPref := some 150 }

def renumberedSnapshot : Bgpvpn := { firstSnapshot with vni := some 101 }

theorem identity_fixed_for_life_respelled :
    (∃ vpnType vni bag advertised, Bag.ofBgpvpn respelledSnapshot = .ok bag ∧
      Advertisement.ofBag bag = .ok (some advertised) ∧
      advertised.vpnType = vpnType ∧ advertised.vni = vni ∧
      firstSnapshot.type = .ok vpnType ∧ firstSnapshot.vni = some vni) ∧
      ∃ fault, ((beforeBgpvpnUpdate respelledSnapshot renumberedSnapshot).play
        (KeyValue.deployment {} {}) {}).result = .error fault ∧ fault.isValidation = true := by
  obtain ⟨life, update⟩ := identity_fixed_for_life (KeyValue.deployment {} {})
  refine ⟨?_, ?_⟩
  · have created : ((beforeBgpvpnCreate firstSnapshot).play
        (KeyValue.deployment {} {}) {}).result = .ok () := by decide +kernel
    have updated : ((beforeBgpvpnUpdate firstSnapshot respelledSnapshot).play
        (KeyValue.deployment {} {}) {}).result = .ok () := by decide +kernel
    obtain ⟨vpnType, vni, -, same⟩ := life _ ((Lifetime.created created).updated updated)
    obtain ⟨-, -, bag, advertised, built, read, type, number⟩ := same _ List.mem_cons_self
    obtain ⟨named, numbered, -⟩ := same _ (List.mem_cons_of_mem _ List.mem_cons_self)
    exact ⟨vpnType, vni, bag, advertised, built, read, type, number, named, numbered⟩
  · have refused : ((beforeBgpvpnUpdate respelledSnapshot renumberedSnapshot).play
        (KeyValue.deployment {} {}) {}).result =
        .error (.invalidAttribute "vni" "cannot change from 100 to Some(101)") := by
      decide +kernel
    exact ⟨_, refused, ((update _ _ _).2 _ refused).1⟩

end EvpnMetadata.Reconcile
