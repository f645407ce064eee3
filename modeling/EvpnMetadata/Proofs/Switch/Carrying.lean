import EvpnMetadata.Proofs.FiniteMap
import EvpnMetadata.Switch.Publication

/-! # What a bag carries

A publication replaces the EVPN part of a bag as a whole.  So only the last publication shows, the
other writers' keys are kept, and nothing of an earlier publication is mixed into a later one.
-/

namespace EvpnMetadata.Switch

open Vpn

namespace Bag

def carrying (bag attributes : Bag) : Bag := Bag.applyAll bag (replacement attributes)

def IsEvpn (bag : Bag) : Prop := ∀ key, key ∉ evpnKeys → bag.get? key = none

/-- What the switch of a network has to carry for the owner of the network, if there is one. -/
def ofOwner : Option Bgpvpn → Except Fault Bag
  | some bgpvpn => Bag.ofBgpvpn bgpvpn
  | none => .ok .empty

theorem get?_applyAll_sets (bag attributes : Bag) (key : String) :
    (Bag.applyAll bag (Bag.sets attributes)).get? key =
      (attributes.get? key).or (bag.get? key) := by
  obtain ⟨entries, ascending⟩ := attributes
  induction entries generalizing bag with
  | nil => rfl
  | cons head rest ih =>
    have ⟨below, tail⟩ := List.pairwise_cons.mp ascending
    change (Bag.applyAll (bag.insert head.1 head.2) (Bag.sets ⟨rest, tail⟩)).get? key = _
    rw [ih _ tail, FiniteMap.get?_insert]
    change _ = ((if key = head.1 then some head.2 else FiniteMap.lookupEntry key rest).or _)
    by_cases same : key = head.1
    · subst same
      -- The head is the least key, so no later entry can replace it.
      have absent : (⟨rest, tail⟩ : Bag).get? head.1 = none := by
        rw [Option.eq_none_iff_forall_ne_some]
        intro value found
        have mem := (FiniteMap.get?_eq_some_iff _ _ _).mp found
        exact lt_irrefl head.1 (below (head.1, value) mem)
      simp [absent]
    · simp only [same, if_false]
      rfl

theorem get?_applyAll_removes (bag : Bag) (keys : List String) (key : String) :
    (Bag.applyAll bag (keys.map .remove)).get? key =
      if key ∈ keys then none else bag.get? key := by
  induction keys generalizing bag with
  | nil => simp [Bag.applyAll]
  | cons head rest ih =>
    change (Bag.applyAll (bag.erase head) (rest.map .remove)).get? key = _
    rw [ih, FiniteMap.get?_erase]
    by_cases same : key = head <;> simp [same]

/-- A replacement decides every EVPN key and no other. -/
theorem get?_carrying {attributes : Bag} (evpn : IsEvpn attributes) (bag : Bag) (key : String) :
    (carrying bag attributes).get? key =
      if key ∈ evpnKeys then attributes.get? key else bag.get? key := by
  have split : carrying bag attributes = Bag.applyAll (Bag.applyAll bag (Bag.sets attributes))
      ((evpnKeys.filter fun key => !attributes.contains key).map .remove) :=
    List.foldl_append
  rw [split, get?_applyAll_removes, get?_applyAll_sets]
  by_cases known : key ∈ evpnKeys
  · cases found : attributes.get? key <;> simp [known, found, FiniteMap.contains]
  · simp [known, evpn key known]

theorem get?_evpnPart (bag : Bag) (key : String) :
    (evpnPart bag).get? key = if key ∈ evpnKeys then bag.get? key else none := by
  rw [evpnPart, FiniteMap.get?_filter]
  by_cases known : key ∈ evpnKeys <;> cases found : bag.get? key <;> simp [known]

theorem isEvpn_evpnPart (bag : Bag) : IsEvpn (evpnPart bag) := by
  intro key unknown
  rw [get?_evpnPart, if_neg unknown]

variable {attributes other : Bag}

theorem evpnPart_carrying (evpn : IsEvpn attributes) (bag : Bag) :
    evpnPart (carrying bag attributes) = attributes := by
  apply FiniteMap.ext_get?
  intro key
  rw [get?_evpnPart, get?_carrying evpn]
  split
  · rfl
  · next unknown => exact (evpn key unknown).symm

theorem carrying_carrying (evpn : IsEvpn attributes) (evpn' : IsEvpn other) (bag : Bag) :
    carrying (carrying bag other) attributes = carrying bag attributes := by
  apply FiniteMap.ext_get?
  intro key
  rw [get?_carrying evpn, get?_carrying evpn, get?_carrying evpn']
  split <;> rfl

/-- Publishing what is there already changes nothing. -/
theorem carrying_evpnPart (bag : Bag) : carrying bag (evpnPart bag) = bag := by
  apply FiniteMap.ext_get?
  intro key
  rw [get?_carrying (isEvpn_evpnPart bag), get?_evpnPart]
  split <;> rfl

def foreignPart (bag : Bag) : Bag := bag.filter fun key _ => !evpnKeys.contains key

theorem get?_foreignPart (bag : Bag) (key : String) :
    (foreignPart bag).get? key = if key ∈ evpnKeys then none else bag.get? key := by
  rw [foreignPart, FiniteMap.get?_filter]
  by_cases known : key ∈ evpnKeys <;> cases found : bag.get? key <;> simp [known]

/-- A replacement adds the attributes to the other writers' keys. -/
theorem carrying_eq (evpn : IsEvpn attributes) (bag : Bag) :
    carrying bag attributes = (foreignPart bag).insertAll attributes.entries := by
  apply FiniteMap.ext_get?
  intro key
  have distinct : (attributes.entries.map Prod.fst).Nodup := attributes.keys_ascending.imp ne_of_lt
  rw [get?_carrying evpn, FiniteMap.get?_insertAll _ distinct, get?_foreignPart]
  change _ = (attributes.get? key).or _
  by_cases known : key ∈ evpnKeys
  · simp [known]
  · simp [known, evpn key known]

theorem isEvpn_empty : IsEvpn .empty := fun _ _ => rfl

theorem carrying_empty (bag : Bag) : carrying bag .empty = foreignPart bag :=
  carrying_eq isEvpn_empty bag

theorem IsEvpn.insert {bag : Bag} (evpn : IsEvpn bag) {key : String} (known : key ∈ evpnKeys)
    (value : String) : IsEvpn (bag.insert key value) := by
  intro other unknown
  have ne : other ≠ key := fun same => unknown (same ▸ known)
  rw [FiniteMap.get?_insert, if_neg ne, evpn other unknown]

theorem IsEvpn.insertSome {bag : Bag} (evpn : IsEvpn bag) {key : String} (known : key ∈ evpnKeys)
    (value : Option String) : IsEvpn (insertSome bag key value) := by
  cases value with
  | none => exact evpn
  | some value => exact evpn.insert known value

theorem IsEvpn.insertTexts {bag : Bag} (evpn : IsEvpn bag) {key : String} (known : key ∈ evpnKeys)
    (items : List String) : IsEvpn (insertTexts bag key items) := by
  rw [Bag.insertTexts]
  split
  · exact evpn
  · exact evpn.insert known _

theorem isEvpn_ofBgpvpn {bgpvpn : Bgpvpn} (h : Bag.ofBgpvpn bgpvpn = .ok attributes) :
    IsEvpn attributes := by
  rw [Bag.ofBgpvpn] at h
  split at h
  · cases h
  · cases h
    refine .insertSome (.insertTexts (.insertTexts (.insertTexts (.insertTexts (.insertSome
      (.insert (.insert isEvpn_empty ?_ _) ?_ _) ?_ _) ?_ _) ?_ _) ?_ _) ?_ _) ?_ _ <;> decide

theorem isEvpn_ofOwner {owner : Option Bgpvpn} (h : ofOwner owner = .ok attributes) :
    IsEvpn attributes := by
  cases owner with
  | none => cases h; exact isEvpn_empty
  | some bgpvpn => exact isEvpn_ofBgpvpn h

theorem exists_ofBgpvpn_iff (bgpvpn : Bgpvpn) :
    (∃ attributes, Bag.ofBgpvpn bgpvpn = .ok attributes) ↔ bgpvpn.vni ≠ none := by
  rw [Bag.ofBgpvpn]
  cases bgpvpn.vni <;> simp

theorem get?_insertSome_ne (bag : Bag) {key other : String} (ne : other ≠ key)
    (value : Option String) : (insertSome bag key value).get? other = bag.get? other := by
  cases value with
  | none => rfl
  | some value => rw [insertSome, FiniteMap.get?_insert, if_neg ne]

theorem get?_insertTexts_ne (bag : Bag) {key other : String} (ne : other ≠ key)
    (items : List String) : (insertTexts bag key items).get? other = bag.get? other := by
  rw [insertTexts]
  split
  · rfl
  · rw [FiniteMap.get?_insert, if_neg ne]

/-- What is published names its VNI, so a switch that carries it counts as configured. -/
theorem get?_vni_ofBgpvpn {bgpvpn : Bgpvpn} (h : Bag.ofBgpvpn bgpvpn = .ok attributes) :
    attributes.get? "vni" = bgpvpn.vni.map fun vni => Text.Decimal.write vni.toNat := by
  rw [Bag.ofBgpvpn] at h
  split at h
  · cases h
  · next vni same =>
    cases h
    rw [get?_insertSome_ne _ (by decide), get?_insertTexts_ne _ (by decide),
      get?_insertTexts_ne _ (by decide), get?_insertTexts_ne _ (by decide),
      get?_insertTexts_ne _ (by decide), get?_insertSome_ne _ (by decide), FiniteMap.get?_insert,
      same]
    rfl

theorem isConfigured_ofBgpvpn {bgpvpn : Bgpvpn} (h : Bag.ofBgpvpn bgpvpn = .ok attributes) :
    isConfigured attributes = true := by
  obtain ⟨vni, same⟩ := Option.ne_none_iff_exists'.mp ((exists_ofBgpvpn_iff bgpvpn).mp ⟨_, h⟩)
  rw [isConfigured, FiniteMap.contains, get?_vni_ofBgpvpn h, same]
  rfl

theorem isConfigured_carrying (evpn : IsEvpn attributes) (bag : Bag) :
    isConfigured (carrying bag attributes) = isConfigured attributes := by
  rw [isConfigured, isConfigured, FiniteMap.contains, FiniteMap.contains, get?_carrying evpn,
    if_pos (by decide)]

end Bag

end EvpnMetadata.Switch
