import EvpnMetadata.Proofs.Json.Record
import EvpnMetadata.Proofs.Switch.Carrying

/-! # What is published is read back

The attributes of a BGPVPN hold a key for each thing that is set, and an agent reads from them what
the BGPVPN says, whatever texts it lists.  So two BGPVPNs with the same attributes say the same.
-/

namespace EvpnMetadata.Switch

open Vpn

def SplitAtColon (text before after : String) : Prop :=
  ':' ∉ before.toList ∧ text = before ++ ":" ++ after

theorem takeWhile_colon {before after : List Char} (none : ':' ∉ before) :
    (before ++ ':' :: after).takeWhile (· ≠ ':') = before := by
  have all : ∀ c ∈ before, decide (c ≠ ':') = true :=
    fun c mem => decide_eq_true fun same => none (same ▸ mem)
  rw [List.takeWhile_append_of_pos all, List.takeWhile_cons_of_neg (by decide), List.append_nil]

theorem beforeColon?_eq_some_iff {text before : String} :
    beforeColon? text = some before ↔ ∃ after, SplitAtColon text before after := by
  rw [beforeColon?]
  constructor
  · intro found
    split at found
    · next colon =>
      obtain ⟨first, rest, same, none⟩ :=
        List.eq_append_cons_of_mem (List.contains_iff_mem.mp colon)
      rw [same, takeWhile_colon none] at found
      cases found
      refine ⟨String.ofList rest, String.toList_ofList ▸ none, ?_⟩
      rw [← String.toList_inj, same]
      simp
    · cases found
  · rintro ⟨after, none, rfl⟩
    have same : (before ++ ":" ++ after).toList = before.toList ++ ':' :: after.toList := by simp
    rw [same, if_pos (by simp), takeWhile_colon none, String.ofList_toList]

theorem asNumberOf_eq_some_iff {routeTargets : List String} {number : String} :
    asNumberOf routeTargets = some number ↔
      ∃ first rest after, routeTargets = first :: rest ∧ SplitAtColon first number after := by
  cases routeTargets with
  | nil => simp [asNumberOf]
  | cons first rest =>
    change beforeColon? first = some number ↔ _
    rw [beforeColon?_eq_some_iff]
    constructor
    · rintro ⟨after, split⟩
      exact ⟨first, rest, after, rfl, split⟩
    · rintro ⟨first, rest, after, ⟨⟩, split⟩
      exact ⟨after, split⟩

/-- How a list is published: an empty one is left out. -/
def writtenTexts? (items : List String) : Option String :=
  if items.isEmpty then none else some (writeTexts items)

namespace Bag

/-- A bag holds what a BGPVPN publishes, and nothing else. -/
structure Publishes (bag : Bag) (bgpvpn : Bgpvpn) : Prop where
  vpnType : bag.get? "type" = some bgpvpn.vpnType
  vni : bag.get? "vni" = bgpvpn.vni.map fun vni => Text.Decimal.write vni.toNat
  asNumber : bag.get? "bgp_as" = asNumberOf bgpvpn.routeTargets
  routeTargets : bag.get? "route_targets" = writtenTexts? bgpvpn.routeTargets
  importTargets : bag.get? "import_targets" = writtenTexts? bgpvpn.importTargets
  exportTargets : bag.get? "export_targets" = writtenTexts? bgpvpn.exportTargets
  routeDistinguishers :
    bag.get? "route_distinguishers" = writtenTexts? bgpvpn.routeDistinguishers
  localPref : bag.get? "local_pref" = bgpvpn.localPref.map fun pref => Text.Decimal.write pref.toNat
  evpn : IsEvpn bag

theorem get?_insertSome (bag : Bag) (key other : String) (value : Option String) :
    (insertSome bag key value).get? other =
      if other = key then value.or (bag.get? other) else bag.get? other := by
  cases value with
  | none => exact (ite_self _).symm
  | some value => rw [insertSome, FiniteMap.get?_insert, Option.some_or]

theorem insertTexts_eq (bag : Bag) (key : String) (items : List String) :
    insertTexts bag key items = insertSome bag key (writtenTexts? items) := by
  rw [insertTexts, writtenTexts?]
  split <;> rfl

theorem publishes_ofBgpvpn {bgpvpn : Bgpvpn} {bag : Bag} (h : Bag.ofBgpvpn bgpvpn = .ok bag) :
    bag.Publishes bgpvpn := by
  have evpn := isEvpn_ofBgpvpn h
  have vni := get?_vni_ofBgpvpn h
  rw [Bag.ofBgpvpn] at h
  split at h
  · cases h
  · cases h
    constructor <;> first
      | exact vni
      | exact evpn
      | simp [get?_insertSome, insertTexts_eq, FiniteMap.get?_insert, FiniteMap.get?_empty]

theorem texts_eq_ok {bag : Bag} {key : String} {items : List String}
    (written : bag.get? key = writtenTexts? items) : bag.texts key = .ok items := by
  rw [texts, written, writtenTexts?]
  split
  · next absent =>
    split at absent
    · next empty => rw [List.isEmpty_iff.mp empty]
    · cases absent
  · next raw present =>
    split at present
    · cases present
    · cases present
      rw [writeTexts, Json.readTexts?_render_texts]

theorem localPref_eq_ok {bag : Bag} {pref : Option UInt32}
    (written : bag.get? "local_pref" = pref.map fun pref => Text.Decimal.write pref.toNat) :
    bag.localPref = .ok pref := by
  cases pref with
  | none => simp only [localPref, written, Option.map_none]
  | some pref => simp only [localPref, written, Option.map_some, Text.Decimal.readUInt32_write]

theorem readVni_write (vni : UInt32) : readVni (Text.Decimal.write vni.toNat) = vni := by
  rw [readVni, Text.Decimal.readUInt32_write]

namespace Publishes

variable {bag : Bag} {bgpvpn other : Bgpvpn}

/-- A bag is published by no two BGPVPNs that say different things. -/
theorem agree (mine : bag.Publishes bgpvpn) (theirs : bag.Publishes other) :
    bgpvpn.vpnType = other.vpnType ∧ bgpvpn.vni = other.vni ∧
      bgpvpn.routeTargets = other.routeTargets ∧ bgpvpn.importTargets = other.importTargets ∧
      bgpvpn.exportTargets = other.exportTargets ∧
      bgpvpn.routeDistinguishers = other.routeDistinguishers ∧
      bgpvpn.localPref = other.localPref := by
  have lists {key : String} {items items' : List String}
      (written : bag.get? key = writtenTexts? items)
      (written' : bag.get? key = writtenTexts? items') : items = items' :=
    Except.ok.inj ((texts_eq_ok written).symm.trans (texts_eq_ok written'))
  have vni : bgpvpn.vni = other.vni := by
    have read := congrArg (Option.map readVni) (mine.vni.symm.trans theirs.vni)
    simpa [Function.comp_def, readVni_write] using read
  exact ⟨Option.some.inj (mine.vpnType.symm.trans theirs.vpnType), vni,
    lists mine.routeTargets theirs.routeTargets, lists mine.importTargets theirs.importTargets,
    lists mine.exportTargets theirs.exportTargets,
    lists mine.routeDistinguishers theirs.routeDistinguishers,
    Except.ok.inj ((localPref_eq_ok mine.localPref).symm.trans (localPref_eq_ok theirs.localPref))⟩

end Publishes

end Bag

def IsPublishedKey (bgpvpn : Bgpvpn) (key : String) : Prop :=
  key = "type" ∨ key = "vni" ∨
    (key = "bgp_as" ∧ ∃ first rest, bgpvpn.routeTargets = first :: rest ∧ ':' ∈ first.toList) ∨
    (key = "route_targets" ∧ bgpvpn.routeTargets ≠ []) ∨
    (key = "import_targets" ∧ bgpvpn.importTargets ≠ []) ∨
    (key = "export_targets" ∧ bgpvpn.exportTargets ≠ []) ∨
    (key = "route_distinguishers" ∧ bgpvpn.routeDistinguishers ≠ []) ∨
    (key = "local_pref" ∧ bgpvpn.localPref ≠ none)

theorem exists_writtenTexts?_iff (items : List String) :
    (∃ value, writtenTexts? items = some value) ↔ items ≠ [] := by
  cases items <;> simp [writtenTexts?]

theorem exists_asNumberOf_iff (routeTargets : List String) :
    (∃ number, asNumberOf routeTargets = some number) ↔
      ∃ first rest, routeTargets = first :: rest ∧ ':' ∈ first.toList := by
  cases routeTargets with
  | nil => simp [asNumberOf]
  | cons first rest => simp [asNumberOf, beforeColon?]

theorem evpn_of_isPublishedKey {bgpvpn : Bgpvpn} {key : String}
    (published : IsPublishedKey bgpvpn key) : key ∈ evpnKeys := by
  rcases published with
    rfl | rfl | ⟨rfl, -⟩ | ⟨rfl, -⟩ | ⟨rfl, -⟩ | ⟨rfl, -⟩ | ⟨rfl, -⟩ | ⟨rfl, -⟩ <;>
  decide

theorem Bag.Publishes.mem_keys_iff {bag : Bag} {bgpvpn : Bgpvpn} (published : bag.Publishes bgpvpn)
    (numbered : bgpvpn.vni ≠ none) (key : String) :
    key ∈ bag.keys ↔ IsPublishedKey bgpvpn key := by
  rw [FiniteMap.mem_keys_iff]
  by_cases known : key ∈ evpnKeys
  · obtain ⟨vni, same⟩ := Option.ne_none_iff_exists'.mp numbered
    simp only [evpnKeys, List.mem_cons, List.not_mem_nil, or_false] at known
    rcases known with rfl | rfl | rfl | rfl | rfl | rfl | rfl | rfl
    · simp [IsPublishedKey, published.vpnType]
    · simp [IsPublishedKey, published.vni, same]
    · simp [IsPublishedKey, published.asNumber, exists_asNumberOf_iff]
    · simp [IsPublishedKey, published.routeTargets, exists_writtenTexts?_iff]
    · simp [IsPublishedKey, published.importTargets, exists_writtenTexts?_iff]
    · simp [IsPublishedKey, published.exportTargets, exists_writtenTexts?_iff]
    · simp [IsPublishedKey, published.routeDistinguishers, exists_writtenTexts?_iff]
    · simp [IsPublishedKey, published.localPref, Option.ne_none_iff_exists']
  · constructor
    · rintro ⟨value, found⟩
      rw [published.evpn key known] at found
      cases found
    · exact fun named => absurd (evpn_of_isPublishedKey named) known

structure Advertisement.Tells (advertised : Advertisement) (bgpvpn : Bgpvpn) : Prop where
  vpnType : bgpvpn.type = .ok advertised.vpnType
  vni : bgpvpn.vni = some advertised.vni
  asNumber (number : String) : advertised.asNumber = some number ↔
    ∃ first rest after, bgpvpn.routeTargets = first :: rest ∧ SplitAtColon first number after
  routeTargets : advertised.routeTargets = bgpvpn.routeTargets
  importTargets : advertised.importTargets = bgpvpn.importTargets
  exportTargets : advertised.exportTargets = bgpvpn.exportTargets
  routeDistinguishers : advertised.routeDistinguishers = bgpvpn.routeDistinguishers
  localPref : advertised.localPref = bgpvpn.localPref

theorem ofText?_of_type {bgpvpn : Bgpvpn} {vpnType : VpnType} (named : bgpvpn.type = .ok vpnType) :
    VpnType.ofText? bgpvpn.vpnType = some vpnType := by
  rw [Bgpvpn.type, VpnType.ofText] at named
  split at named
  · next found => rw [found, Except.ok.inj named]
  · cases named

theorem ofText?_of_type_error {bgpvpn : Bgpvpn} {fault : Fault}
    (unnamed : bgpvpn.type = .error fault) : VpnType.ofText? bgpvpn.vpnType = none := by
  rw [Bgpvpn.type, VpnType.ofText] at unnamed
  split at unnamed
  · cases unnamed
  · next missing => exact missing

namespace Bag.Publishes

variable {bag : Bag} {bgpvpn : Bgpvpn}

theorem ofBag_eq_ok (published : bag.Publishes bgpvpn) (numbered : bgpvpn.vni ≠ none)
    {vpnType : VpnType} (named : bgpvpn.type = .ok vpnType) :
    ∃ advertised, Advertisement.ofBag bag = .ok (some advertised) ∧ advertised.Tells bgpvpn := by
  obtain ⟨vni, same⟩ := Option.ne_none_iff_exists'.mp numbered
  have number : bag.get? "vni" = some (Text.Decimal.write vni.toNat) := by
    rw [published.vni, same, Option.map_some]
  have type : bag.vpnType = .ok vpnType := by
    simp only [Bag.vpnType, published.vpnType, ofText?_of_type named]
  refine ⟨{ vpnType, vni, asNumber := asNumberOf bgpvpn.routeTargets
            routeTargets := bgpvpn.routeTargets, importTargets := bgpvpn.importTargets
            exportTargets := bgpvpn.exportTargets
            routeDistinguishers := bgpvpn.routeDistinguishers, localPref := bgpvpn.localPref },
    ?_, named, same, fun number => asNumberOf_eq_some_iff, rfl, rfl, rfl, rfl, rfl⟩
  simp only [Advertisement.ofBag, number, type, localPref_eq_ok published.localPref,
    texts_eq_ok published.routeTargets, texts_eq_ok published.importTargets,
    texts_eq_ok published.exportTargets, texts_eq_ok published.routeDistinguishers,
    readVni_write, published.asNumber]
  rfl

theorem ofBag_eq_error (published : bag.Publishes bgpvpn) (numbered : bgpvpn.vni ≠ none)
    {fault : Fault} (unnamed : bgpvpn.type = .error fault) :
    Advertisement.ofBag bag =
      .error (.malformedMetadata "type" ("unknown type '" ++ bgpvpn.vpnType ++ "'")) := by
  obtain ⟨vni, same⟩ := Option.ne_none_iff_exists'.mp numbered
  have number : bag.get? "vni" = some (Text.Decimal.write vni.toNat) := by
    rw [published.vni, same, Option.map_some]
  have type : bag.vpnType =
      .error (.malformedMetadata "type" ("unknown type '" ++ bgpvpn.vpnType ++ "'")) := by
    simp only [Bag.vpnType, published.vpnType, ofText?_of_type_error unnamed]
  simp only [Advertisement.ofBag, number, type]
  rfl

end Bag.Publishes

/-- A BGPVPN with a type and a VNI can be published, and an agent reads what it says. -/
theorem exists_tells {bgpvpn : Bgpvpn} (numbered : bgpvpn.vni ≠ none) {vpnType : VpnType}
    (named : bgpvpn.type = .ok vpnType) :
    ∃ bag advertised, Bag.ofBgpvpn bgpvpn = .ok bag ∧
      Advertisement.ofBag bag = .ok (some advertised) ∧ advertised.Tells bgpvpn := by
  obtain ⟨bag, built⟩ := (Bag.exists_ofBgpvpn_iff bgpvpn).mpr numbered
  obtain ⟨advertised, read, tells⟩ := (Bag.publishes_ofBgpvpn built).ofBag_eq_ok numbered named
  exact ⟨bag, advertised, built, read, tells⟩

theorem Advertisement.ofBag_congr {bag other : Bag}
    (same : ∀ key ∈ evpnKeys, bag.get? key = other.get? key) : ofBag bag = ofBag other := by
  have all : bag.get? "vni" = other.get? "vni" ∧ bag.vpnType = other.vpnType ∧
      bag.localPref = other.localPref ∧ bag.get? "bgp_as" = other.get? "bgp_as" ∧
      bag.texts "route_targets" = other.texts "route_targets" ∧
      bag.texts "import_targets" = other.texts "import_targets" ∧
      bag.texts "export_targets" = other.texts "export_targets" ∧
      bag.texts "route_distinguishers" = other.texts "route_distinguishers" := by
    simp only [evpnKeys, List.forall_mem_cons] at same
    simp [Bag.vpnType, Bag.localPref, Bag.texts, same]
  obtain ⟨vni, vpnType, localPref, asNumber, routeTargets, importTargets, exportTargets,
    routeDistinguishers⟩ := all
  rw [ofBag, ofBag, vni, vpnType, localPref, asNumber, routeTargets, importTargets, exportTargets,
    routeDistinguishers]

/-- Whatever a bag held, after a replacement it advertises what was published. -/
theorem Advertisement.ofBag_carrying {attributes : Bag} (evpn : Bag.IsEvpn attributes)
    (bag : Bag) : ofBag (Bag.carrying bag attributes) = ofBag attributes := by
  apply ofBag_congr
  intro key known
  rw [Bag.get?_carrying evpn, if_pos known]

/-- Whatever texts a BGPVPN with a VNI lists: it can be published, the keys are those of what is
set, an agent reads back what it says unless its type has no meaning, and no BGPVPN that says
something else is published in the same way. -/
theorem advertisement_round_trip (bgpvpn : Bgpvpn) (numbered : bgpvpn.vni ≠ none) :
    ∃ bag, Bag.ofBgpvpn bgpvpn = .ok bag ∧
      (∀ key, key ∈ bag.keys ↔ IsPublishedKey bgpvpn key) ∧ (∀ key ∈ bag.keys, key ∈ evpnKeys) ∧
      (∀ vpnType, bgpvpn.type = .ok vpnType →
        ∃ advertised, Advertisement.ofBag bag = .ok (some advertised) ∧ advertised.Tells bgpvpn) ∧
      (∀ fault, bgpvpn.type = .error fault → Advertisement.ofBag bag =
        .error (.malformedMetadata "type" ("unknown type '" ++ bgpvpn.vpnType ++ "'"))) ∧
      ∀ other, Bag.ofBgpvpn other = .ok bag →
        bgpvpn.vpnType = other.vpnType ∧ bgpvpn.vni = other.vni ∧
          bgpvpn.routeTargets = other.routeTargets ∧ bgpvpn.importTargets = other.importTargets ∧
          bgpvpn.exportTargets = other.exportTargets ∧
          bgpvpn.routeDistinguishers = other.routeDistinguishers ∧
          bgpvpn.localPref = other.localPref := by
  obtain ⟨bag, built⟩ := (Bag.exists_ofBgpvpn_iff bgpvpn).mpr numbered
  have published := Bag.publishes_ofBgpvpn built
  have keys := published.mem_keys_iff numbered
  exact ⟨bag, built, keys, fun key mem => evpn_of_isPublishedKey ((keys key).mp mem),
    fun _ => published.ofBag_eq_ok numbered, fun _ => published.ofBag_eq_error numbered,
    fun _ same => published.agree (Bag.publishes_ofBgpvpn same)⟩

def spikyBgpvpn : Bgpvpn where
  id := "v1"
  vpnType := "L3"
  vni := some 4242
  routeTargets := ["64512:1", "", "\"\\\n\x01\u007f😀"]
  localPref := some 150

theorem advertisement_round_trip_spiky :
    ∃ bag advertised, Bag.ofBgpvpn spikyBgpvpn = .ok bag ∧
      Advertisement.ofBag bag = .ok (some advertised) ∧
      advertised.routeTargets = ["64512:1", "", "\"\\\n\x01\u007f😀"] ∧
      advertised.asNumber = some "64512" := by
  obtain ⟨bag, built, -, -, read, -⟩ := advertisement_round_trip spikyBgpvpn (by decide)
  obtain ⟨advertised, parsed, tells⟩ := read .l3 (by decide +kernel)
  refine ⟨bag, advertised, built, parsed, tells.routeTargets, ?_⟩
  exact (tells.asNumber "64512").mpr ⟨"64512:1", _, "1", rfl, by decide, by decide⟩

end EvpnMetadata.Switch
