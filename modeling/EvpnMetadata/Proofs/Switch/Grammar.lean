import EvpnMetadata.Proofs.Json.Inversion
import EvpnMetadata.Proofs.Procedure
import EvpnMetadata.Proofs.Switch.Advertisement

/-! # The grammar of metadata

Anybody may have written the bag that an agent reads.  It is accepted if and only if six keys follow
their grammar, and the first of them that does not is named.  The VNI is the one number that may be
misspelled, and no key of another writer is looked at.
-/

namespace EvpnMetadata

namespace Vpn.VpnType

def spellings : VpnType → List String
  | l2 => ["l2", "L2"]
  | l3 => ["l3", "L3"]

/-- Lowering adds 32 to the code of a capital letter and leaves every other character alone. -/
theorem toLower_cases (c : Char) :
    c.toLower = c ∨ 65 ≤ c.toNat ∧ c.toLower.toNat = c.toNat + 32 := by
  by_cases capital : 'A'.val ≤ c.val ∧ c.val ≤ 'Z'.val
  · have moved : c.toLower.val = c.val + 32 := congrArg Char.val (dif_pos capital)
    have lower : 65 ≤ c.val.toNat := capital.1
    have upper : c.val.toNat ≤ 90 := capital.2
    refine .inr ⟨lower, ?_⟩
    change c.toLower.val.toNat = c.val.toNat + 32
    rw [moved, UInt32.toNat_add]
    change (c.val.toNat + 32) % 2 ^ 32 = _
    omega
  · exact .inl (dif_neg capital)

theorem toLower_eq_l_iff {c : Char} : c.toLower = 'l' ↔ c = 'l' ∨ c = 'L' := by
  constructor
  · intro same
    rcases toLower_cases c with kept | ⟨_, moved⟩
    · exact .inl (kept.symm.trans same)
    · have code : 'l'.toNat = c.toNat + 32 := same ▸ moved
      exact .inr (Char.toNat_inj.mp (Nat.add_right_cancel (code.symm.trans rfl)))
  · rintro (rfl | rfl) <;> decide

theorem toLower_eq_digit_iff {c digit : Char} (small : digit.toNat < 65) :
    c.toLower = digit ↔ c = digit := by
  constructor
  · intro same
    rcases toLower_cases c with kept | ⟨_, moved⟩
    · exact kept.symm.trans same
    · rw [same] at moved
      omega
  · rintro rfl
    exact (toLower_cases c).resolve_right fun ⟨large, _⟩ => Nat.not_le.mpr small large

theorem toLower_eq_iff {raw : String} {digit : Char} (small : digit.toNat < 65) :
    raw.toLower = String.ofList ['l', digit] ↔
      raw = String.ofList ['l', digit] ∨ raw = String.ofList ['L', digit] := by
  change raw.map Char.toLower = _ ↔ _
  simp only [← String.toList_inj, String.toList_map, String.toList_ofList,
    List.map_eq_cons_iff, List.map_eq_nil_iff, toLower_eq_l_iff, toLower_eq_digit_iff small]
  constructor
  · rintro ⟨_, _, spelled, rfl | rfl, _, _, rfl, rfl, rfl⟩
    · exact .inl spelled
    · exact .inr spelled
  · rintro (spelled | spelled)
    · exact ⟨_, _, spelled, .inl rfl, _, _, rfl, rfl, rfl⟩
    · exact ⟨_, _, spelled, .inr rfl, _, _, rfl, rfl, rfl⟩

theorem ofName?_eq_some_iff {name : String} {vpnType : VpnType} :
    ofName? name = some vpnType ↔ name = vpnType.name := by
  constructor
  · intro named
    rw [ofName?.eq_def] at named
    split at named <;> cases named <;> rfl
  · rintro rfl
    cases vpnType <;> rfl

theorem ofText?_eq_some_iff {raw : String} {vpnType : VpnType} :
    ofText? raw = some vpnType ↔ raw ∈ vpnType.spellings := by
  rw [ofText?, ofName?_eq_some_iff]
  cases vpnType with
  | l2 => exact (toLower_eq_iff (by decide)).trans (by simp [spellings])
  | l3 => exact (toLower_eq_iff (by decide)).trans (by simp [spellings])

end Vpn.VpnType

namespace Switch

open Vpn

structure KeyRule where
  key : String
  allows : String → Prop

def KeyRule.spelling (key : String) (spells : String → α → Prop) : KeyRule where
  key := key
  allows raw := ∃ value, spells raw value

def SpellsPref (raw : String) (pref : Option UInt32) : Prop :=
  ∃ n, pref = some n ∧ Text.Decimal.Spells raw n.toNat

/-- A text that spells a VNI, or one that spells no number and stands for zero. -/
def SpellsVni (raw : String) (vni : UInt32) : Prop :=
  Text.Decimal.Spells raw vni.toNat ∨ (∀ n : UInt32, ¬ Text.Decimal.Spells raw n.toNat) ∧ vni = 0

def typeRule : KeyRule := .spelling "type" fun raw (vpnType : VpnType) => raw ∈ vpnType.spellings

def localPrefRule : KeyRule := .spelling "local_pref" SpellsPref

def listRule (key : String) : KeyRule := .spelling key Json.IsListText

def keyRules : List KeyRule :=
  [typeRule, localPrefRule, listRule "route_targets", listRule "import_targets",
   listRule "export_targets", listRule "route_distinguishers"]

namespace Bag

def Breaks (bag : Bag) (rule : KeyRule) : Prop :=
  ∃ raw, bag.get? rule.key = some raw ∧ ¬ rule.allows raw

/-- Of several rules in their order, the first one that is broken is the one of a key. -/
def BreaksFirst (bag : Bag) (rules : List KeyRule) (key : String) : Prop :=
  ∃ earlier rule later, rules = earlier ++ rule :: later ∧ rule.key = key ∧
    (∀ other ∈ earlier, ¬ bag.Breaks other) ∧ bag.Breaks rule

/-- A value if no rule is broken, or a fault that names the first key that breaks its rule. -/
inductive Judges (bag : Bag) (rules : List KeyRule) : Except Fault α → Prop where
  | passed {a : α} (kept : ∀ rule ∈ rules, ¬ bag.Breaks rule) : Judges bag rules (.ok a)
  | failed {key reason : String} (first : bag.BreaksFirst rules key) :
    Judges bag rules (.error (.malformedMetadata key reason))

variable {bag : Bag}

theorem BreaksFirst.cons {rule : KeyRule} {rules : List KeyRule} {key : String}
    (first : bag.BreaksFirst rules key) (kept : ¬ bag.Breaks rule) :
    bag.BreaksFirst (rule :: rules) key := by
  obtain ⟨earlier, broken, later, rfl, named, sound, breaks⟩ := first
  exact ⟨rule :: earlier, broken, later, rfl, named, List.forall_mem_cons.mpr ⟨kept, sound⟩, breaks⟩

theorem judges_pure (a : α) : bag.Judges [] (pure a : Except Fault α) := .passed nofun

theorem Judges.bind {rule : KeyRule} {rest : List KeyRule} {x : Except Fault α}
    {f : α → Except Fault β} (first : bag.Judges [rule] x) (others : ∀ a, bag.Judges rest (f a)) :
    bag.Judges (rule :: rest) (x >>= f) := by
  cases first with
  | @passed a kept =>
    have kept : ¬ bag.Breaks rule := kept rule List.mem_cons_self
    change bag.Judges (rule :: rest) (f a)
    have later := others a
    generalize f a = read at later ⊢
    cases later with
    | passed sound => exact .passed (List.forall_mem_cons.mpr ⟨kept, sound⟩)
    | failed first => exact .failed (first.cons kept)
  | failed first =>
    obtain ⟨earlier, broken, later, same, named, -, breaks⟩ := first
    cases earlier with
    | nil =>
      cases same
      exact .failed ⟨[], rule, rest, rfl, named, nofun, breaks⟩
    | cons other earlier => cases earlier <;> cases same

namespace Judges

variable {rules : List KeyRule} {answer : Except Fault α}

theorem kept (judges : bag.Judges rules answer) {a : α} (passed : answer = .ok a) :
    ∀ rule ∈ rules, ¬ bag.Breaks rule := by
  cases judges with
  | passed kept => exact kept
  | failed first => cases passed

theorem exists_ok (judges : bag.Judges rules answer) (kept : ∀ rule ∈ rules, ¬ bag.Breaks rule) :
    ∃ a, answer = .ok a := by
  cases judges with
  | passed kept => exact ⟨_, rfl⟩
  | failed first =>
    obtain ⟨earlier, rule, later, rfl, -, -, breaks⟩ := first
    exact absurd breaks (kept rule (List.mem_append_right earlier List.mem_cons_self))

theorem exists_error (judges : bag.Judges rules answer)
    (broken : ∃ rule ∈ rules, bag.Breaks rule) :
    ∃ key reason, bag.BreaksFirst rules key ∧ answer = .error (.malformedMetadata key reason) := by
  cases judges with
  | passed kept =>
    obtain ⟨rule, mem, breaks⟩ := broken
    exact absurd breaks (kept rule mem)
  | failed first => exact ⟨_, _, first, rfl⟩

end Judges

def Says (bag : Bag) (key : String) (default : α) (spells : String → α → Prop) (value : α) : Prop :=
  bag.get? key = none ∧ value = default ∨ ∃ raw, bag.get? key = some raw ∧ spells raw value

/-- The answer of a reader that takes a default where there is no text, and otherwise what the text
spells. -/
structure Reads (bag : Bag) (key : String) (default : α) (spells : String → α → Prop)
    (answer : Except Fault α) : Prop where
  absent : bag.get? key = none → answer = .ok default
  present (raw : String) : bag.get? key = some raw → ∀ value, answer = .ok value ↔ spells raw value
  refused (fault : Fault) : answer = .error fault → ∃ reason, fault = .malformedMetadata key reason

namespace Reads

variable {key : String} {default : α} {spells : String → α → Prop} {answer : Except Fault α}

theorem eq_ok_iff (reads : bag.Reads key default spells answer) (value : α) :
    answer = .ok value ↔ bag.Says key default spells value := by
  rw [Says]
  cases there : bag.get? key with
  | none => simp [reads.absent there, eq_comm]
  | some raw => simp [reads.present raw there]

theorem breaks_iff (reads : bag.Reads key default spells answer) :
    bag.Breaks (.spelling key spells) ↔ ∀ value, answer ≠ .ok value := by
  simp only [Breaks, KeyRule.spelling, not_exists]
  constructor
  · rintro ⟨raw, there, misspelled⟩ value same
    exact misspelled value ((reads.present raw there value).mp same)
  · intro refused
    cases there : bag.get? key with
    | none => exact absurd (reads.absent there) (refused default)
    | some raw =>
      exact ⟨raw, rfl, fun value spelled =>
        refused value ((reads.present raw there value).mpr spelled)⟩

theorem judges (reads : bag.Reads key default spells answer) :
    bag.Judges [.spelling key spells] answer := by
  cases answer with
  | ok value =>
    refine .passed fun rule mem => ?_
    rw [List.mem_singleton.mp mem, reads.breaks_iff]
    exact fun refused => refused value rfl
  | error fault =>
    obtain ⟨reason, rfl⟩ := reads.refused fault rfl
    exact .failed ⟨[], _, [], rfl, rfl, nofun, reads.breaks_iff.mpr nofun⟩

end Reads

theorem reads_vpnType :
    bag.Reads "type" .l3 (fun raw (vpnType : VpnType) => raw ∈ vpnType.spellings) bag.vpnType where
  absent missing := by rw [vpnType, missing]
  present raw there value := by
    rw [vpnType, there, ← VpnType.ofText?_eq_some_iff]
    cases read : VpnType.ofText? raw <;> simp [read]
  refused fault failed := by
    rw [vpnType] at failed
    split at failed
    · cases failed
    · split at failed <;> cases failed
      exact ⟨_, rfl⟩

theorem reads_localPref : bag.Reads "local_pref" none SpellsPref bag.localPref where
  absent missing := by rw [localPref, missing]
  present raw there value := by
    simp only [localPref, there, SpellsPref, ← Text.Decimal.readUInt32_eq_ok_iff]
    cases Text.Decimal.readUInt32 raw <;> simp [eq_comm]
  refused fault failed := by
    rw [localPref] at failed
    split at failed
    · cases failed
    · split at failed <;> cases failed
      exact ⟨_, rfl⟩

theorem reads_texts (key : String) : bag.Reads key [] Json.IsListText (bag.texts key) where
  absent missing := by rw [texts, missing]
  present raw there value := by
    rw [texts, there, ← Json.readTexts?_eq_some_iff]
    cases read : Json.readTexts? raw <;> simp [read]
  refused fault failed := by
    rw [texts] at failed
    split at failed
    · cases failed
    · split at failed <;> cases failed
      exact ⟨_, rfl⟩

end Bag

theorem readVni_eq_iff {raw : String} {vni : UInt32} : readVni raw = vni ↔ SpellsVni raw vni := by
  simp only [readVni, SpellsVni, ← Text.Decimal.readUInt32_eq_ok_iff]
  cases Text.Decimal.readUInt32 raw <;> simp [eq_comm]

structure Advertisement.IsSaidBy (advertised : Advertisement) (bag : Bag) : Prop where
  vpnType : bag.Says "type" .l3 (fun raw (vpnType : VpnType) => raw ∈ vpnType.spellings)
    advertised.vpnType
  vni : ∃ raw, bag.get? "vni" = some raw ∧ SpellsVni raw advertised.vni
  asNumber : advertised.asNumber = bag.get? "bgp_as"
  routeTargets : bag.Says "route_targets" [] Json.IsListText advertised.routeTargets
  importTargets : bag.Says "import_targets" [] Json.IsListText advertised.importTargets
  exportTargets : bag.Says "export_targets" [] Json.IsListText advertised.exportTargets
  routeDistinguishers :
    bag.Says "route_distinguishers" [] Json.IsListText advertised.routeDistinguishers
  localPref : bag.Says "local_pref" none SpellsPref advertised.localPref

theorem Bag.isConfigured_eq_false_iff {bag : Bag} :
    bag.isConfigured = false ↔ bag.get? "vni" = none := by
  rw [isConfigured, FiniteMap.contains, Option.isSome_eq_false_iff, Option.isNone_iff_eq_none]

namespace Advertisement

variable {bag : Bag}

theorem ofBag_eq_ok_none (missing : bag.get? "vni" = none) : ofBag bag = .ok none := by
  rw [ofBag, missing]

theorem ofBag_eq_bind {raw : String} (numbered : bag.get? "vni" = some raw) :
    ofBag bag = (bag.vpnType >>= fun vpnType => bag.localPref >>= fun localPref =>
      bag.texts "route_targets" >>= fun routeTargets =>
      bag.texts "import_targets" >>= fun importTargets =>
      bag.texts "export_targets" >>= fun exportTargets =>
      bag.texts "route_distinguishers" >>= fun routeDistinguishers =>
      pure (some {
        vpnType, vni := readVni raw, asNumber := bag.get? "bgp_as", routeTargets, importTargets,
        exportTargets, routeDistinguishers, localPref })) := by
  rw [ofBag, numbered]

theorem judges_ofBag {raw : String} (numbered : bag.get? "vni" = some raw) :
    bag.Judges keyRules (ofBag bag) := by
  rw [ofBag_eq_bind numbered]
  exact Bag.reads_vpnType.judges.bind fun _ => Bag.reads_localPref.judges.bind fun _ =>
    (Bag.reads_texts _).judges.bind fun _ => (Bag.reads_texts _).judges.bind fun _ =>
    (Bag.reads_texts _).judges.bind fun _ => (Bag.reads_texts _).judges.bind fun _ =>
    Bag.judges_pure _

theorem exists_of_ofBag {raw : String} (numbered : bag.get? "vni" = some raw)
    {answer : Option Advertisement} (read : ofBag bag = .ok answer) :
    ∃ advertised, answer = some advertised ∧ advertised.IsSaidBy bag := by
  rw [ofBag_eq_bind numbered] at read
  obtain ⟨vpnType, type, read⟩ := exists_of_bind_eq_ok read
  obtain ⟨localPref, pref, read⟩ := exists_of_bind_eq_ok read
  obtain ⟨routeTargets, routes, read⟩ := exists_of_bind_eq_ok read
  obtain ⟨importTargets, imports, read⟩ := exists_of_bind_eq_ok read
  obtain ⟨exportTargets, exports, read⟩ := exists_of_bind_eq_ok read
  obtain ⟨routeDistinguishers, distinguishers, read⟩ := exists_of_bind_eq_ok read
  cases read
  exact ⟨_, rfl, (Bag.reads_vpnType.eq_ok_iff _).mp type, ⟨raw, numbered, readVni_eq_iff.mp rfl⟩,
    rfl, ((Bag.reads_texts _).eq_ok_iff _).mp routes, ((Bag.reads_texts _).eq_ok_iff _).mp imports,
    ((Bag.reads_texts _).eq_ok_iff _).mp exports,
    ((Bag.reads_texts _).eq_ok_iff _).mp distinguishers, (Bag.reads_localPref.eq_ok_iff _).mp pref⟩

theorem ofBag_eq_ok_none_iff : ofBag bag = .ok none ↔ bag.isConfigured = false := by
  rw [Bag.isConfigured_eq_false_iff]
  cases numbered : bag.get? "vni" with
  | none => exact iff_of_true (ofBag_eq_ok_none numbered) rfl
  | some raw =>
    refine iff_of_false (fun read => ?_) nofun
    obtain ⟨advertised, same, -⟩ := exists_of_ofBag numbered read
    cases same

theorem isSaidBy_of_ofBag {advertised : Advertisement} (read : ofBag bag = .ok (some advertised)) :
    advertised.IsSaidBy bag := by
  cases numbered : bag.get? "vni" with
  | none =>
    rw [ofBag_eq_ok_none numbered] at read
    cases read
  | some raw =>
    obtain ⟨said, same, isSaid⟩ := exists_of_ofBag numbered read
    cases same
    exact isSaid

theorem IsSaidBy.ofBag {advertised : Advertisement} (said : advertised.IsSaidBy bag) :
    ofBag bag = .ok (some advertised) := by
  obtain ⟨type, ⟨raw, numbered, vni⟩, number, routes, imports, exports, distinguishers, pref⟩ :=
    said
  rw [ofBag_eq_bind numbered, (Bag.reads_vpnType.eq_ok_iff _).mpr type,
    (Bag.reads_localPref.eq_ok_iff _).mpr pref, ((Bag.reads_texts _).eq_ok_iff _).mpr routes,
    ((Bag.reads_texts _).eq_ok_iff _).mpr imports, ((Bag.reads_texts _).eq_ok_iff _).mpr exports,
    ((Bag.reads_texts _).eq_ok_iff _).mpr distinguishers, readVni_eq_iff.mpr vni, ← number]
  rfl

/-- A configured bag is judged by the rules of its keys. -/
theorem judges_of_isConfigured (configured : bag.isConfigured = true) :
    bag.Judges keyRules (ofBag bag) := by
  obtain ⟨raw, numbered⟩ := (FiniteMap.contains_iff bag "vni").mp configured
  exact judges_ofBag numbered

theorem exists_ofBag_iff : (∃ advertised, ofBag bag = .ok (some advertised)) ↔
    bag.isConfigured = true ∧ ∀ rule ∈ keyRules, ¬ bag.Breaks rule := by
  constructor
  · rintro ⟨advertised, read⟩
    have configured : bag.isConfigured = true := by
      refine Bool.of_not_eq_false fun missing => ?_
      rw [ofBag_eq_ok_none_iff.mpr missing] at read
      cases read
    exact ⟨configured, (judges_of_isConfigured configured).kept read⟩
  · rintro ⟨configured, kept⟩
    obtain ⟨answer, read⟩ := (judges_of_isConfigured configured).exists_ok kept
    obtain ⟨raw, numbered⟩ := (FiniteMap.contains_iff bag "vni").mp configured
    obtain ⟨advertised, rfl, -⟩ := exists_of_ofBag numbered read
    exact ⟨advertised, read⟩

end Advertisement

/-- A BGPVPN that says what is advertised, with its type in any spelling. -/
structure Advertisement.IsToldBy (advertised : Advertisement) (bgpvpn : Bgpvpn) : Prop where
  vpnType : bgpvpn.vpnType ∈ advertised.vpnType.spellings
  vni : bgpvpn.vni = some advertised.vni
  routeTargets : bgpvpn.routeTargets = advertised.routeTargets
  importTargets : bgpvpn.importTargets = advertised.importTargets
  exportTargets : bgpvpn.exportTargets = advertised.exportTargets
  routeDistinguishers : bgpvpn.routeDistinguishers = advertised.routeDistinguishers
  localPref : bgpvpn.localPref = advertised.localPref

namespace Advertisement

variable {advertised again : Advertisement} {bgpvpn : Bgpvpn}

theorem IsToldBy.type (told : advertised.IsToldBy bgpvpn) :
    bgpvpn.type = .ok advertised.vpnType := by
  rw [Bgpvpn.type, VpnType.ofText, VpnType.ofText?_eq_some_iff.mpr told.vpnType]

/-- Only the autonomous system may differ from what was advertised before. -/
theorem Tells.eq_of_isToldBy (tells : again.Tells bgpvpn) (told : advertised.IsToldBy bgpvpn) :
    again = { advertised with asNumber := asNumberOf advertised.routeTargets } := by
  have number : again.asNumber = asNumberOf advertised.routeTargets := by
    ext number
    rw [tells.asNumber, told.routeTargets, asNumberOf_eq_some_iff]
  have type := Except.ok.inj (tells.vpnType.symm.trans told.type)
  have vni := Option.some.inj (tells.vni.symm.trans told.vni)
  cases again
  rw [mk.injEq]
  exact ⟨type, vni, number, tells.routeTargets.trans told.routeTargets,
    tells.importTargets.trans told.importTargets, tells.exportTargets.trans told.exportTargets,
    tells.routeDistinguishers.trans told.routeDistinguishers,
    tells.localPref.trans told.localPref⟩

/-- A bag that is accepted is accepted again after it is published, with its own autonomous
system. -/
theorem IsToldBy.ofBag (told : advertised.IsToldBy bgpvpn) :
    ∃ rebuilt, Bag.ofBgpvpn bgpvpn = .ok rebuilt ∧ Advertisement.ofBag rebuilt =
      .ok (some { advertised with asNumber := asNumberOf advertised.routeTargets }) := by
  have numbered : bgpvpn.vni ≠ none := told.vni ▸ Option.some_ne_none _
  obtain ⟨rebuilt, again, built, read, tells⟩ := exists_tells numbered told.type
  exact ⟨rebuilt, built, tells.eq_of_isToldBy told ▸ read⟩

end Advertisement

/-- Only the EVPN keys of a bag are looked at.  It is not configured without a VNI, it is accepted
if and only if no key breaks its rule, and the first key that does is named.  What is accepted is
what the texts say, and it is accepted again after it is published. -/
theorem ofBag_accepts_grammar (bag : Bag) :
    Advertisement.ofBag bag = Advertisement.ofBag bag.evpnPart ∧
      (Advertisement.ofBag bag = .ok none ↔ bag.isConfigured = false) ∧
      (∀ advertised,
        Advertisement.ofBag bag = .ok (some advertised) ↔ advertised.IsSaidBy bag) ∧
      ((∃ advertised, Advertisement.ofBag bag = .ok (some advertised)) ↔
        bag.isConfigured = true ∧ ∀ rule ∈ keyRules, ¬ bag.Breaks rule) ∧
      (bag.isConfigured = true → (∃ rule ∈ keyRules, bag.Breaks rule) →
        ∃ key reason, bag.BreaksFirst keyRules key ∧
          Advertisement.ofBag bag = .error (.malformedMetadata key reason)) ∧
      ∀ advertised bgpvpn, Advertisement.ofBag bag = .ok (some advertised) →
        advertised.IsToldBy bgpvpn →
        ∃ rebuilt, Bag.ofBgpvpn bgpvpn = .ok rebuilt ∧ Advertisement.ofBag rebuilt =
          .ok (some { advertised with asNumber := asNumberOf advertised.routeTargets }) := by
  refine ⟨?_, Advertisement.ofBag_eq_ok_none_iff,
    fun advertised => ⟨Advertisement.isSaidBy_of_ofBag, Advertisement.IsSaidBy.ofBag⟩,
    Advertisement.exists_ofBag_iff, ?_, fun _ _ _ told => told.ofBag⟩
  · exact Advertisement.ofBag_congr fun key known => by rw [Bag.get?_evpnPart, if_pos known]
  · exact fun configured => (Advertisement.judges_of_isConfigured configured).exists_error

/-- A bag of another hand: a signed VNI with zeros, a capital type, an autonomous system that no
route target has, an escaped list, and a key of another writer. -/
def foreignHandBag : Bag :=
  .ofList [("vni", "+0042"), ("type", "L2"), ("local_pref", "0150"), ("bgp_as", "7"),
    ("route_targets", " [ \"64512:\\u0031\" ] "), ("neutron:mtu", "1500")]

def brokenHandBag : Bag :=
  (foreignHandBag.insert "import_targets" "[1]").insert "local_pref" "4294967296"

def foreignHandBgpvpn : Bgpvpn where
  id := "v1"
  vpnType := "L2"
  vni := some 42
  routeTargets := ["64512:1"]
  localPref := some 150

theorem ofBag_accepts_grammar_foreignHand :
    (∃ advertised : Advertisement,
      advertised.IsSaidBy foreignHandBag ∧ advertised.asNumber = some "7" ∧
        ∃ rebuilt, Bag.ofBgpvpn foreignHandBgpvpn = .ok rebuilt ∧ Advertisement.ofBag rebuilt =
          .ok (some { advertised with asNumber := some "64512" })) ∧
      brokenHandBag.BreaksFirst keyRules "local_pref" := by
  obtain ⟨-, -, said, -, -, rebuild⟩ := ofBag_accepts_grammar foreignHandBag
  obtain ⟨-, -, -, -, refused, -⟩ := ofBag_accepts_grammar brokenHandBag
  refine ⟨?_, ?_⟩
  · have read : Advertisement.ofBag foreignHandBag = .ok (some {
        vpnType := .l2, vni := 42, asNumber := some "7", routeTargets := ["64512:1"]
        importTargets := [], exportTargets := [], routeDistinguishers := []
        localPref := some 150 }) := by decide +kernel
    have told := rebuild _ foreignHandBgpvpn read ⟨by decide, rfl, rfl, rfl, rfl, rfl, rfl⟩
    exact ⟨_, (said _).mp read, rfl, told⟩
  · have tooLarge : brokenHandBag.localPref =
        .error (.malformedMetadata "local_pref" "number too large to fit in target type") := by
      decide +kernel
    have breaks : brokenHandBag.Breaks localPrefRule :=
      Bag.reads_localPref.breaks_iff.mpr fun value passed => by
        rw [tooLarge] at passed
        cases passed
    obtain ⟨key, reason, first, named⟩ :=
      refused (by decide +kernel) ⟨localPrefRule, by simp [keyRules], breaks⟩
    have failed : Advertisement.ofBag brokenHandBag =
        .error (.malformedMetadata "local_pref" "number too large to fit in target type") := by
      decide +kernel
    cases failed.symm.trans named
    exact first

end Switch

end EvpnMetadata
