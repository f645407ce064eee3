import EvpnMetadata.Proofs.Json.Number
import Mathlib.Algebra.Order.Field.Basic
import Mathlib.Data.Rat.Cast.Order
import Mathlib.Tactic.FieldSimp
import Mathlib.Tactic.Linarith

/-! # Values of binary64 numbers

A finite number denotes a fraction over a power of two.  Rounding a fraction to an integer moves it
by at most one half, and rounding it to a binary64 number gives zero only below the smallest one.
-/

namespace EvpnMetadata.Binary64

/-- The number that a finite magnitude denotes. -/
def valueOf (magnitude : Nat) : ℚ := significand magnitude * 2 ^ unitPower magnitude

def value (x : Binary64) : ℚ := (if x.negative then -1 else 1) * valueOf x.magnitude

theorem denominator_pos (magnitude : Nat) : 0 < denominator magnitude :=
  Nat.pow_pos (by decide)

def deepest : Nat := 1074

theorem denominator_le (magnitude : Nat) : denominator magnitude ≤ 2 ^ deepest := by
  have power : (-unitPower magnitude).toNat ≤ deepest := by
    rw [unitPower, deepest]
    omega
  exact Nat.pow_le_pow_right Nat.two_pos power

theorem significand_eq_zero_iff {magnitude : Nat} : significand magnitude = 0 ↔ magnitude = 0 := by
  rw [significand, Nat.pow_eq]
  split <;> omega

theorem numerator_eq_zero_iff {magnitude : Nat} : numerator magnitude = 0 ↔ magnitude = 0 := by
  have unit : Nat.pow 2 (unitPower magnitude).toNat ≠ 0 := (Nat.pow_pos (by decide)).ne'
  rw [numerator, Nat.mul_eq_zero, significand_eq_zero_iff, or_iff_left unit]

theorem valueOf_eq_div (magnitude : Nat) :
    valueOf magnitude = numerator magnitude / denominator magnitude := by
  have unit : (2 : ℚ) ^ unitPower magnitude =
      2 ^ (unitPower magnitude).toNat / 2 ^ (-unitPower magnitude).toNat := by
    conv_lhs => rw [← Int.toNat_sub_toNat_neg (unitPower magnitude)]
    rw [zpow_sub₀ two_ne_zero, zpow_natCast, zpow_natCast]
  rw [valueOf, unit, numerator, denominator, Nat.pow_eq, Nat.pow_eq]
  push_cast
  ring

theorem valueOf_pos_iff {magnitude : Nat} : 0 < valueOf magnitude ↔ magnitude ≠ 0 := by
  have pos : (0 : ℚ) < denominator magnitude := Nat.cast_pos.mpr (denominator_pos magnitude)
  rw [valueOf_eq_div, div_pos_iff_of_pos_right pos, Nat.cast_pos, Nat.pos_iff_ne_zero, ne_eq,
    numerator_eq_zero_iff]

theorem valueOf_le_iff {magnitude bound : Nat} :
    valueOf magnitude ≤ bound ↔ numerator magnitude ≤ bound * denominator magnitude := by
  have pos : (0 : ℚ) < denominator magnitude := Nat.cast_pos.mpr (denominator_pos magnitude)
  rw [valueOf_eq_div, div_le_iff₀ pos]
  exact_mod_cast Iff.rfl

variable {num den : Nat}

/-- In units of half a denominator, rounding moves a fraction by at most one. -/
theorem roundHalfEven_bounds (num : Nat) (pos : 0 < den) :
    2 * (roundHalfEven num den * den) ≤ 2 * num + den ∧
      2 * num ≤ 2 * (roundHalfEven num den * den) + den := by
  have parts := Nat.div_add_mod' num den
  have below := Nat.mod_lt num pos
  rw [roundHalfEven]
  split_ifs with up
  · have more := Nat.add_one_mul (num / den) den
    omega
  · omega

theorem abs_roundHalfEven_sub_le (num : Nat) (pos : 0 < den) :
    |(roundHalfEven num den : ℚ) - num / den| ≤ 1 / 2 := by
  have pos' : (0 : ℚ) < den := Nat.cast_pos.mpr pos
  obtain ⟨above, below⟩ := roundHalfEven_bounds num pos
  have above : 2 * ((roundHalfEven num den : ℚ) * den) ≤ 2 * num + den := by exact_mod_cast above
  have below : 2 * (num : ℚ) ≤ 2 * (roundHalfEven num den * den) + den := by exact_mod_cast below
  have scaled : (roundHalfEven num den : ℚ) - num / den =
      (roundHalfEven num den * den - num) / den := by field_simp
  rw [scaled, abs_le, le_div_iff₀ pos', div_le_iff₀ pos']
  constructor <;> linarith

theorem roundHalfEven_eq_zero_iff : roundHalfEven num den = 0 ↔ 2 * num ≤ den := by
  constructor
  · intro zero
    rw [roundHalfEven] at zero
    split_ifs at zero with up
    have whole := Nat.div_add_mod num den
    rw [zero, Nat.mul_zero, Nat.zero_add] at whole
    omega
  · intro small
    have none : num / den = 0 := Nat.div_eq_zero_iff.mpr (by omega)
    have whole := Nat.div_add_mod num den
    rw [none, Nat.mul_zero, Nat.zero_add] at whole
    rw [roundHalfEven, none, whole, if_neg (by omega)]

theorem roundHalfEven_le {bound : Nat} (pos : 0 < den) (le : num ≤ bound * den) :
    roundHalfEven num den ≤ bound := by
  have quotient : num / den ≤ bound := Nat.div_le_of_le_mul (Nat.mul_comm bound den ▸ le)
  rw [roundHalfEven]
  split_ifs with up
  · refine Nat.lt_of_le_of_ne quotient fun same => ?_
    have whole := Nat.div_add_mod' num den
    rw [same] at whole
    omega
  · exact quotient

/-- A fraction of at least the smallest positive number is not rounded to zero. -/
theorem nearest_ne_zero (pos : 0 < den) (le : den ≤ num * 2 ^ deepest) : nearest num den ≠ 0 := by
  have positive : num ≠ 0 := by
    rintro rfl
    omega
  intro zero
  rw [nearest, if_neg positive] at zero
  dsimp only at zero
  generalize low : max (binaryOrder num den - 52) (-1074) = unit at zero
  obtain ⟨exponent, count⟩ : (unit + 1074).toNat * Nat.pow 2 52 = 0 ∧
      roundHalfEven (num * Nat.pow 2 (-unit).toNat) (den * Nat.pow 2 unit.toNat) = 0 :=
    Nat.add_eq_zero_iff.mp ((Nat.min_eq_zero_iff.mp zero).resolve_right (by decide))
  -- Above the smallest unit the exponent alone is positive.
  have smallest : unit = -(deepest : Int) := by
    rw [deepest]
    have none := (Nat.mul_eq_zero.mp exponent).resolve_right (by decide)
    omega
  rw [smallest, roundHalfEven_eq_zero_iff, Int.neg_neg, Int.toNat_natCast,
    Int.toNat_neg_natCast, Nat.pow_eq, Nat.pow_eq, Nat.pow_zero, Nat.mul_one] at count
  omega

theorem nearest_zero (den : Nat) : nearest 0 den = 0 := if_pos rfl

theorem nearest_eq_zero_iff (n : Nat) : nearest n 1 = 0 ↔ n = 0 := by
  constructor
  · intro zero
    by_contra positive
    exact nearest_ne_zero Nat.one_pos
      (Nat.mul_pos (Nat.pos_of_ne_zero positive) (by positivity)) zero
  · rintro rfl
    exact nearest_zero 1

theorem denominators_le {a : Nat} (positive : a ≠ 0) (b : Nat) :
    denominator a * denominator b ≤ numerator a * denominator b * 2 ^ deepest := by
  have some : 1 ≤ numerator a := Nat.pos_of_ne_zero (mt numerator_eq_zero_iff.mp positive)
  calc denominator a * denominator b
      ≤ 2 ^ deepest * denominator b := Nat.mul_le_mul_right _ (denominator_le a)
    _ = 1 * denominator b * 2 ^ deepest := by ring
    _ ≤ numerator a * denominator b * 2 ^ deepest :=
      Nat.mul_le_mul_right _ (Nat.mul_le_mul_right _ some)

theorem plus_eq_zero_iff {a b : Nat} : plus a b = 0 ↔ a = 0 ∧ b = 0 := by
  have pos : 0 < denominator a * denominator b :=
    Nat.mul_pos (denominator_pos a) (denominator_pos b)
  constructor
  · intro zero
    by_contra positive
    rcases not_and_or.mp positive with positive | positive
    · refine nearest_ne_zero pos ((denominators_le positive b).trans ?_) zero
      exact Nat.mul_le_mul_right _ (Nat.le_add_right _ _)
    · have le := denominators_le positive a
      rw [Nat.mul_comm (denominator b)] at le
      exact nearest_ne_zero pos (le.trans (Nat.mul_le_mul_right _ (Nat.le_add_left _ _))) zero
  · rintro ⟨rfl, rfl⟩
    have zero : numerator 0 = 0 := numerator_eq_zero_iff.mpr rfl
    rw [plus, zero, Nat.zero_mul, nearest_zero]

/-- The rounded quotient of two small integers is zero only if the first one is. -/
theorem divide_eq_zero_iff {n d : Nat} (small : n < 2 ^ 53) (pos : 0 < d) (below : d < 2 ^ 53) :
    divide (nearest n 1) (nearest d 1) = 0 ↔ n = 0 := by
  constructor
  · intro zero
    by_contra positive
    have some := Nat.pos_of_ne_zero positive
    rw [nearest_one some small, nearest_one pos below, divide] at zero
    have scale : denominator (ofSmall n) ≤ 2 ^ 52 := by
      rw [denominator_ofSmall some small]
      exact Nat.pow_le_pow_right Nat.two_pos (Nat.sub_le _ _)
    have size : 0 < numerator (ofSmall d) ∧ numerator (ofSmall d) < 2 ^ 53 := by
      obtain ⟨lower, upper⟩ := significand_bounds pos below
      rw [numerator_ofSmall pos below]
      omega
    have one : 1 ≤ numerator (ofSmall n) * denominator (ofSmall d) := by
      rw [numerator_ofSmall some small]
      exact Nat.mul_pos (Nat.mul_pos some (by positivity)) (denominator_pos _)
    refine nearest_ne_zero (Nat.mul_pos (denominator_pos _) size.1) ?_ zero
    calc denominator (ofSmall n) * numerator (ofSmall d)
        ≤ 2 ^ 52 * 2 ^ 53 := Nat.mul_le_mul scale size.2.le
      _ = 2 ^ 105 := (Nat.pow_add 2 52 53).symm
      _ ≤ 1 * 2 ^ deepest := by
        rw [Nat.one_mul]
        exact Nat.pow_le_pow_right Nat.two_pos (by decide)
      _ ≤ numerator (ofSmall n) * denominator (ofSmall d) * 2 ^ deepest :=
        Nat.mul_le_mul_right _ one
  · rintro rfl
    have zero : numerator 0 = 0 := numerator_eq_zero_iff.mpr rfl
    rw [divide, nearest_zero, zero, Nat.zero_mul, nearest_zero]

end EvpnMetadata.Binary64
