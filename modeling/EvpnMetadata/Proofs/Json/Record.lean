import EvpnMetadata.Json.Record
import EvpnMetadata.Proofs.Json.RoundTrip

/-! # Records read back

A record that is written with distinct names is read field by field, with nothing for a name that it
leaves out.
-/

namespace EvpnMetadata.Json

theorem valuesOf_record {members : List (String × Json)} (distinct : (members.map Prod.fst).Nodup)
    (key : String) :
    valuesOf key (members.map fun member => (some member.1, member.2)) =
      (members.lookup key).toList := by
  induction members with
  | nil => rfl
  | cons member rest ih =>
    obtain ⟨name, value⟩ := member
    obtain ⟨fresh, distinct⟩ := List.nodup_cons.mp distinct
    have tail := ih distinct
    rw [valuesOf] at tail ⊢
    by_cases same : key = name
    · subst same
      have absent : rest.lookup key = none := by
        rw [List.lookup_eq_none_iff]
        intro other mem
        have ne : key ≠ other.1 :=
          fun same => fresh (List.mem_map.mpr ⟨other, mem, same.symm⟩)
        simp [ne]
      simp [tail, absent]
    · have other : (key == name) = false := beq_eq_false_iff_ne.mpr same
      simp [tail, Ne.symm same, List.lookup_cons, other]

theorem memberOf?_record {members : List (String × Json)} (distinct : (members.map Prod.fst).Nodup)
    (key : String) :
    memberOf? (members.map fun member => (some member.1, member.2)) key =
      some (members.lookup key) := by
  rw [memberOf?, valuesOf_record distinct]
  cases members.lookup key <;> rfl

theorem fields?_record {members : List (String × Json)} (distinct : (members.map Prod.fst).Nodup)
    (names : List String) :
    (record members).fields? names = some (names.map fun name => members.lookup name) := by
  rw [record, fields?, if_pos (by simp)]
  induction names with
  | nil => rfl
  | cons name rest ih =>
    rw [List.mapM_cons, memberOf?_record distinct, ih]
    rfl

theorem texts?_texts (items : List String) : texts? (texts items) = some items := by
  rw [texts, texts?]
  induction items with
  | nil => rfl
  | cons item rest ih =>
    rw [List.map_cons, List.mapM_cons, ih]
    rfl

theorem uint32?_nat (n : UInt32) : uint32? (nat n.toNat) = some n := by
  rw [uint32?, nat, natBelow?]
  simp only [Text.Decimal.digitsValue_toDigits]
  rw [if_pos n.toNat_lt_size, Option.map_some, UInt32.ofNat_toNat]

theorem withDefault_texts (items : List String) :
    withDefault [] texts? (some (texts items)) = some items :=
  texts?_texts items

/-- A number that is unset is left out, and stays unset. -/
theorem withDefault_uint32 (number : Option UInt32) :
    withDefault none (nullable uint32?) (number.map fun n => nat n.toNat) = some number := by
  cases number with
  | none => rfl
  | some n =>
    change (uint32? (nat n.toNat)).map some = _
    rw [uint32?_nat, Option.map_some]

/-- A tree of bounded nesting that holds only texts, and numerals that pass a test. -/
structure Fits (inRange : Numeral → Bool) (deepest : Nat) (value : Json) : Prop where
  shallow : value.depth ≤ deepest
  readable : value.isReadable inRange = true

namespace Fits

variable {inRange : Numeral → Bool}

theorem text (s : String) : Fits inRange 0 (.text s) := ⟨Nat.le_refl 0, rfl⟩

theorem bool (value : Bool) : Fits inRange 0 (.bool value) := ⟨Nat.le_refl 0, rfl⟩

theorem number {n : Numeral} (pass : inRange n = true) : Fits inRange 0 (.number n) :=
  ⟨Nat.le_refl 0, pass⟩

theorem mono {deepest deeper : Nat} {value : Json} (fits : Fits inRange deepest value)
    (le : deepest ≤ deeper) : Fits inRange deeper value :=
  ⟨Nat.le_trans fits.shallow le, fits.readable⟩

theorem array {deepest : Nat} {items : List Json}
    (all : ∀ item ∈ items, Fits inRange deepest item) :
    Fits inRange (deepest + 1) (.array items) := by
  induction items with
  | nil => exact ⟨Nat.succ_le_succ (Nat.zero_le deepest), rfl⟩
  | cons item rest ih =>
    obtain ⟨head, tail⟩ := List.forall_mem_cons.mp all
    have others := ih tail
    refine ⟨Nat.succ_le_succ (Nat.max_le.mpr ⟨head.shallow, ?_⟩), ?_⟩
    · exact Nat.le_of_succ_le_succ others.shallow
    · exact isReadableItems_cons.mpr ⟨head.readable, others.readable⟩

theorem texts (items : List String) : Fits inRange 1 (.texts items) := by
  refine array fun item mem => ?_
  obtain ⟨s, -, rfl⟩ := List.mem_map.mp mem
  exact text s

theorem record {deepest : Nat} {members : List (String × Json)}
    (all : ∀ member ∈ members, Fits inRange deepest member.2) :
    Fits inRange (deepest + 1) (.record members) := by
  induction members with
  | nil => exact ⟨Nat.succ_le_succ (Nat.zero_le deepest), rfl⟩
  | cons member rest ih =>
    obtain ⟨head, tail⟩ := List.forall_mem_cons.mp all
    have others := ih tail
    refine ⟨Nat.succ_le_succ (Nat.max_le.mpr ⟨head.shallow, ?_⟩), ?_⟩
    · exact Nat.le_of_succ_le_succ others.shallow
    · exact isReadableMembers_cons.mpr ⟨⟨rfl, head.readable⟩, others.readable⟩

theorem read?_render {deepest : Nat} {value : Json}
    (fits : Fits Numeral.isWellFormed deepest value) : read? value.render = some value :=
  Json.read?_render fits.readable

end Fits

theorem readTexts?_render_texts (items : List String) :
    readTexts? (texts items).render = some items := by
  rw [readTexts?, (Fits.texts items).read?_render]
  exact texts?_texts items

end EvpnMetadata.Json
