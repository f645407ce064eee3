import EvpnMetadata.Json.Number
import EvpnMetadata.Proofs.Text.Decimal
import Mathlib.Tactic.Positivity
import Mathlib.Tactic.Ring

/-! # Integers as binary64 numbers

An integer of at most 53 bits is a binary64 number, so its decimal numeral is in range.
-/

namespace EvpnMetadata

namespace Binary64

def ofSmall (n : Nat) : Nat := (n.log2 + 1022) * 2 ^ 52 + n * 2 ^ (52 - n.log2)

variable {n : Nat}

theorem log2_le_of_lt (small : n < 2 ^ 53) : n.log2 ≤ 52 := by
  rcases Nat.eq_zero_or_pos n with rfl | pos
  · decide
  · exact Nat.le_of_lt_succ ((Nat.log2_lt pos.ne').mpr small)

/-- The leading bit of the significand is set, and no bit is above it. -/
theorem significand_bounds (pos : 0 < n) (small : n < 2 ^ 53) :
    2 ^ 52 ≤ n * 2 ^ (52 - n.log2) ∧ n * 2 ^ (52 - n.log2) < 2 ^ 53 := by
  have order := log2_le_of_lt small
  have below : 2 ^ n.log2 * 2 ^ (52 - n.log2) = 2 ^ 52 := by
    rw [← pow_add, Nat.add_sub_cancel' order]
  have above : 2 ^ (n.log2 + 1) * 2 ^ (52 - n.log2) = 2 ^ 53 := by
    rw [← pow_add]
    congr 1
    omega
  constructor
  · rw [← below]
    exact Nat.mul_le_mul_right _ (Nat.log2_self_le pos.ne')
  · rw [← above]
    exact Nat.mul_lt_mul_of_pos_right Nat.lt_log2_self (by positivity)

theorem ofSmall_lt_infinity (pos : 0 < n) (small : n < 2 ^ 53) : ofSmall n < infinity := by
  have order := log2_le_of_lt small
  have bound := (significand_bounds pos small).2
  rw [ofSmall, infinity]
  omega

theorem binaryOrder_scaled (pos : 0 < n) (k : Nat) :
    binaryOrder (n * 2 ^ k) (2 ^ k) = n.log2 := by
  have order : (n * 2 ^ k).log2 = n.log2 + k := by
    rw [Nat.log2_eq_iff (by positivity)]
    constructor
    · rw [pow_add]
      exact Nat.mul_le_mul_right _ (Nat.log2_self_le pos.ne')
    · rw [show n.log2 + k + 1 = n.log2 + 1 + k by omega, pow_add]
      exact Nat.mul_lt_mul_of_pos_right Nat.lt_log2_self (by positivity)
  have guess : ((n * 2 ^ k).log2 : Int) - (2 ^ k : Nat).log2 = n.log2 := by
    rw [order, Nat.log2_two_pow]
    omega
  have kept : ¬ n * 2 ^ k * Nat.pow 2 (-(n.log2 : Int)).toNat <
      2 ^ k * Nat.pow 2 (n.log2 : Int).toNat := by
    have below := Nat.mul_le_mul_right (2 ^ k) (Nat.log2_self_le pos.ne')
    have none : (-(n.log2 : Int)).toNat = 0 := by omega
    rw [none, Int.toNat_natCast, Nat.pow_eq, Nat.pow_eq, pow_zero, mul_one, mul_comm (2 ^ k)]
    omega
  simp only [binaryOrder, guess, if_neg kept]

theorem roundHalfEven_mul (count : Nat) {den : Nat} (pos : 0 < den) :
    roundHalfEven (count * den) den = count := by
  rw [roundHalfEven, Nat.mul_mod_left, Nat.mul_div_cancel _ pos, if_neg]
  omega

/-- A small integer is represented exactly, in whatever powers of two the fraction is given. -/
theorem nearest_scaled (pos : 0 < n) (small : n < 2 ^ 53) (k : Nat) :
    nearest (n * 2 ^ k) (2 ^ k) = ofSmall n := by
  have order := log2_le_of_lt small
  have unit : max ((n.log2 : Int) - 52) (-1074) = (n.log2 : Int) - 52 := by omega
  have up : (-((n.log2 : Int) - 52)).toNat = 52 - n.log2 := by omega
  have down : ((n.log2 : Int) - 52).toNat = 0 := by omega
  have exponent : ((n.log2 : Int) - 52 + 1074).toNat = n.log2 + 1022 := by omega
  have count : n * 2 ^ k * 2 ^ (52 - n.log2) = n * 2 ^ (52 - n.log2) * 2 ^ k := by ring
  have nonzero : n * 2 ^ k ≠ 0 := by positivity
  rw [nearest, if_neg nonzero]
  simp only [binaryOrder_scaled pos, unit, up, down, exponent, Nat.pow_eq, pow_zero, mul_one, count]
  rw [roundHalfEven_mul _ (by positivity)]
  exact Nat.min_eq_left (ofSmall_lt_infinity pos small).le

theorem nearest_one (pos : 0 < n) (small : n < 2 ^ 53) : nearest n 1 = ofSmall n := by
  simpa using nearest_scaled pos small 0

theorem ofSmall_div (pos : 0 < n) (small : n < 2 ^ 53) : ofSmall n / 2 ^ 52 = n.log2 + 1023 := by
  obtain ⟨lower, upper⟩ := significand_bounds pos small
  rw [ofSmall]
  omega

theorem numerator_ofSmall (pos : 0 < n) (small : n < 2 ^ 53) :
    numerator (ofSmall n) = n * 2 ^ (52 - n.log2) := by
  have order := log2_le_of_lt small
  obtain ⟨lower, upper⟩ := significand_bounds pos small
  have fraction : 2 ^ 52 + ofSmall n % 2 ^ 52 = n * 2 ^ (52 - n.log2) := by
    rw [ofSmall]
    omega
  have power : (((max (n.log2 + 1023) 1 : Nat) : Int) - 1075).toNat = 0 := by omega
  simp only [numerator, significand, unitPower, Nat.pow_eq, ofSmall_div pos small, power]
  rw [if_neg (by omega), fraction, pow_zero, mul_one]

theorem denominator_ofSmall (pos : 0 < n) (small : n < 2 ^ 53) :
    denominator (ofSmall n) = 2 ^ (52 - n.log2) := by
  have order := log2_le_of_lt small
  have power : (-(((max (n.log2 + 1023) 1 : Nat) : Int) - 1075)).toNat = 52 - n.log2 := by omega
  simp only [denominator, unitPower, Nat.pow_eq, ofSmall_div pos small, power]

theorem times_one (pos : 0 < n) (small : n < 2 ^ 53) :
    times (nearest n 1) (nearest 1 1) = ofSmall n := by
  have one : (1 : Nat).log2 = 0 := by decide
  rw [nearest_one pos small, nearest_one (by decide) (by decide), times,
    numerator_ofSmall pos small, denominator_ofSmall pos small,
    numerator_ofSmall (by decide) (by decide), denominator_ofSmall (by decide) (by decide), one,
    one_mul, mul_assoc, ← pow_add]
  exact nearest_scaled pos small _

end Binary64

namespace Numeral

theorem absorb_eq {digits : List Char} (all : ∀ c ∈ digits, c.isDigit = true) {significand : Nat}
    (below : Nat.ofDigitChars 10 digits significand < 2 ^ 64) :
    absorb significand digits = (Nat.ofDigitChars 10 digits significand, []) := by
  induction digits generalizing significand with
  | nil => rfl
  | cons c rest ih =>
    obtain ⟨head, tail⟩ := List.forall_mem_cons.mp all
    rw [Nat.ofDigitChars_cons] at below ⊢
    have kept : 10 * significand + (c.toNat - '0'.toNat) < Nat.pow 2 64 :=
      Nat.lt_of_le_of_lt (Text.Decimal.le_ofDigitChars rest _) below
    simp only [absorb, Text.Decimal.digit?_of_isDigit head, Option.getD_some, if_pos kept]
    exact ih tail below

theorem isInRange_toDigits {n : Nat} (small : n < 2 ^ 53) :
    isInRange { whole := Nat.toDigits 10 n } = true := by
  have all : ∀ c ∈ Nat.toDigits 10 n, c.isDigit = true :=
    fun _ => Text.Decimal.isDigit_of_mem_toDigits
  have whole : absorb 0 (Nat.toDigits 10 n) = (n, []) := by
    rw [absorb_eq all (by rw [Nat.ofDigitChars_ten_toDigits]; omega), Nat.ofDigitChars_ten_toDigits]
  rcases Nat.eq_zero_or_pos n with rfl | pos
  · decide
  · have finite := Binary64.ofSmall_lt_infinity pos small
    have product : Binary64.times (Binary64.nearest n 1) (powerOfTen (0 : Int).toNat) =
        Binary64.ofSmall n := Binary64.times_one pos small
    have scale : scaled { whole := Nat.toDigits 10 n } = (n, 0) := by
      simp only [scaled, whole, absorb]
      rfl
    simp only [isInRange, magnitude?, scale, writtenExponent, if_neg pos.ne', Int.add_zero, product,
      if_pos finite]
    rfl

end Numeral

end EvpnMetadata
