import EvpnMetadata.Text.Digits
import Mathlib.Data.List.Basic

/-! # Decimal texts read back

The decimal text of a number is read as that number, up to any bound that the number keeps, and no
text is read that spells none.
-/

namespace EvpnMetadata.Text.Decimal

theorem digit?_of_isDigit {c : Char} (digit : c.isDigit = true) :
    digit? c = some (c.toNat - '0'.toNat) :=
  if_pos digit

theorem isDigit_of_mem_toDigits {n : Nat} {c : Char} (mem : c ∈ Nat.toDigits 10 n) :
    c.isDigit = true :=
  Nat.isDigit_of_mem_toDigits (by decide) (by decide) mem

theorem le_ofDigitChars (digits : List Char) (value : Nat) :
    value ≤ Nat.ofDigitChars 10 digits value := by
  induction digits generalizing value with
  | nil => exact Nat.le_refl value
  | cons c rest ih =>
    rw [Nat.ofDigitChars_cons]
    exact Nat.le_trans (by omega) (ih _)

theorem digitsValue_eq {digits : List Char} (all : ∀ c ∈ digits, c.isDigit = true) :
    digitsValue digits = Nat.ofDigitChars 10 digits 0 := by
  rw [digitsValue, Nat.ofDigitChars_eq_foldl]
  refine List.foldl_ext _ _ _ fun value c mem => ?_
  rw [digit?_of_isDigit (all c mem)]
  rfl

theorem digitsValue_toDigits (n : Nat) : digitsValue (Nat.toDigits 10 n) = n := by
  rw [digitsValue_eq fun _ => isDigit_of_mem_toDigits, Nat.ofDigitChars_ten_toDigits]

/-- Digits are read to their end when they keep the bound. -/
theorem readDigits_eq_ok {largest : Nat} {digits : List Char}
    (all : ∀ c ∈ digits, c.isDigit = true) {value : Nat}
    (below : Nat.ofDigitChars 10 digits value ≤ largest) :
    readDigits largest value digits = .ok (Nat.ofDigitChars 10 digits value) := by
  induction digits generalizing value with
  | nil => rfl
  | cons c rest ih =>
    obtain ⟨head, tail⟩ := List.forall_mem_cons.mp all
    rw [Nat.ofDigitChars_cons] at below ⊢
    have kept : 10 * value + (c.toNat - '0'.toNat) ≤ largest :=
      Nat.le_trans (le_ofDigitChars rest _) below
    simp only [readDigits, digit?_of_isDigit head, if_pos kept]
    exact ih tail below

/-- One or more digits, perhaps after a plus sign, with the number that they spell. -/
def Spells (text : String) (n : Nat) : Prop :=
  ∃ digits : List Char, digits ≠ [] ∧ (∀ c ∈ digits, c.isDigit = true) ∧
    Nat.ofDigitChars 10 digits 0 = n ∧ (text.toList = digits ∨ text.toList = '+' :: digits)

theorem spells_write (n : Nat) : Spells (write n) n :=
  ⟨Nat.toDigits 10 n, Nat.toDigits_ne_nil, fun _ => isDigit_of_mem_toDigits,
    Nat.ofDigitChars_ten_toDigits, .inl String.toList_ofList⟩

theorem Spells.isEmpty_eq_false {text : String} {n : Nat} (spells : Spells text n) :
    text.isEmpty = false := by
  obtain ⟨digits, filled, -, -, spelled⟩ := spells
  cases empty : text.isEmpty with
  | false => rfl
  | true =>
    rw [String.isEmpty_iff.mp empty] at spelled
    rcases spelled with spelled | spelled
    · exact absurd spelled.symm filled
    · cases spelled

theorem Spells.read {text : String} {n : Nat} (spells : Spells text n) {largest : Nat}
    (below : n ≤ largest) : read largest text = .ok n := by
  obtain ⟨digits, filled, all, rfl, spelled⟩ := spells
  have value : readDigits largest 0 digits = .ok (Nat.ofDigitChars 10 digits 0) :=
    readDigits_eq_ok all below
  rw [Decimal.read]
  rcases spelled with spelled | spelled <;> rw [spelled]
  · split
    · exact absurd rfl filled
    · exact absurd (all '+' List.mem_cons_self) (by decide)
    · exact absurd (all '+' List.mem_cons_self) (by decide)
    · exact value
  · split
    · next same => cases same
    · next same => exact absurd (List.cons.inj same).2 filled
    · next same => rwa [← (List.cons.inj same).2]
    · next other => exact absurd rfl (other digits)

theorem Spells.readUInt32 {text : String} {n : UInt32} (spells : Spells text n.toNat) :
    readUInt32 text = .ok n := by
  have below : n.toNat ≤ UInt32.size - 1 := Nat.le_sub_one_of_lt n.toNat_lt_size
  rw [Decimal.readUInt32, spells.read below]
  exact congrArg Except.ok (UInt32.ofNat_toNat)

theorem readUInt32_write (n : UInt32) : readUInt32 (write n.toNat) = .ok n :=
  (spells_write n.toNat).readUInt32

theorem isDigit_of_digit? {c : Char} {d : Nat} (found : digit? c = some d) :
    c.isDigit = true ∧ d = c.toNat - '0'.toNat := by
  rw [digit?] at found
  split at found
  · next digit => exact ⟨digit, (Option.some.inj found).symm⟩
  · cases found

theorem digits_of_readDigits {largest value n : Nat} {digits : List Char}
    (read : readDigits largest value digits = .ok n) (below : value ≤ largest) :
    (∀ c ∈ digits, c.isDigit = true) ∧ Nat.ofDigitChars 10 digits value = n ∧ n ≤ largest := by
  induction digits generalizing value with
  | nil =>
    cases read
    exact ⟨nofun, rfl, below⟩
  | cons c rest ih =>
    rw [readDigits] at read
    split at read
    · cases read
    · next d found =>
      split at read
      · next kept =>
        obtain ⟨digit, rfl⟩ := isDigit_of_digit? found
        obtain ⟨all, same, bound⟩ := ih read kept
        exact ⟨List.forall_mem_cons.mpr ⟨digit, all⟩, by rw [Nat.ofDigitChars_cons, same], bound⟩
      · cases read

theorem spells_of_read {largest n : Nat} {text : String}
    (read : Decimal.read largest text = .ok n) :
    Spells text n ∧ n ≤ largest := by
  rw [Decimal.read] at read
  split at read
  · cases read
  · cases read
  · next digits signOnly spelled =>
    obtain ⟨all, same, bound⟩ := digits_of_readDigits read (Nat.zero_le largest)
    exact ⟨⟨digits, signOnly, all, same, .inr spelled⟩, bound⟩
  · next filled _ _ =>
    obtain ⟨all, same, bound⟩ := digits_of_readDigits read (Nat.zero_le largest)
    exact ⟨⟨_, filled, all, same, .inl rfl⟩, bound⟩

theorem readUInt32_eq_ok_iff {text : String} {n : UInt32} :
    readUInt32 text = .ok n ↔ Spells text n.toNat := by
  refine ⟨fun read => ?_, Spells.readUInt32⟩
  rw [readUInt32] at read
  cases value : Decimal.read (UInt32.size - 1) text with
  | error fault =>
    rw [value] at read
    cases read
  | ok m =>
    rw [value] at read
    cases read
    obtain ⟨spells, bound⟩ := spells_of_read value
    rwa [UInt32.toNat_ofNat_of_lt' (Nat.lt_of_le_pred (by decide) bound)]

end EvpnMetadata.Text.Decimal
