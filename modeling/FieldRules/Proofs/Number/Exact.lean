import FieldRules.Proofs.Number.Size
import Mathlib.Algebra.Order.Field.Power
import Mathlib.Algebra.Order.Ring.Cast
import Mathlib.Data.Rat.Cast.Order
import Mathlib.Tactic.FieldSimp
import Mathlib.Tactic.Linarith
import Mathlib.Tactic.Positivity

/-!
# Numbers as rational numbers

Numbers are compared, tested for being whole and truncated through their scientific form, and with
some care, because a power of ten may be too large to be computed. What all this comes to is simply
said of the rational number that is meant (`Scientific.toRat`): the order is the order of the
rational numbers (`Scientific.compare_eq`), whole is what equals an integer
(`Scientific.isWhole_iff`), and the whole part of a whole number is the number itself
(`Scientific.truncate_of_isWhole`).
-/

set_option autoImplicit false

namespace FieldRules

theorem tenTo_eq (k : Nat) : tenTo k = 10 ^ k := rfl

theorem twoTo_eq (k : Nat) : twoTo k = 2 ^ k := rfl

namespace Scientific

/-- The rational number that is meant. -/
def toRat (a : Scientific) : ℚ := a.significand * 10 ^ a.exponent

@[simp] theorem toRat_ofInt (i : Int) : (ofInt i).toRat = i := by simp [toRat, ofInt]

/-- With an exponent that is not negative, the number is an integer. -/
theorem toRat_of_nonneg {a : Scientific} (h : 0 ≤ a.exponent) :
    a.toRat = (a.significand * tenTo a.exponent.toNat : Int) := by
  have hexponent : (10 : ℚ) ^ a.exponent = 10 ^ a.exponent.toNat := by
    rw [← zpow_natCast, Int.toNat_of_nonneg h]
  simp [toRat, hexponent, tenTo_eq]

/-- With a negative one it is a fraction with so many places. -/
theorem toRat_of_neg {a : Scientific} (h : a.exponent < 0) :
    a.toRat = a.significand / (tenTo (-a.exponent).toNat : Int) := by
  have hexponent : (10 : ℚ) ^ a.exponent = (10 ^ (-a.exponent).toNat)⁻¹ := by
    rw [← zpow_natCast, Int.toNat_of_nonneg (by omega), zpow_neg, inv_inv]
  simp [toRat, hexponent, tenTo_eq, div_eq_mul_inv]

/-- A number of so few bits is below the power of ten. -/
theorem natAbs_lt_tenTo {x : Int} {k : Nat} (h : x.natAbs.log2 < k) : x.natAbs < tenTo k :=
  calc x.natAbs < 2 ^ k := Nat.lt_log2_self.trans_le (Nat.pow_le_pow_right (by decide) h)
    _ ≤ tenTo k := Nat.pow_le_pow_left (by decide) k

/-! ## Comparing -/

theorem compareScaled_eq (x y : Int) (k : Nat) :
    compareScaled x y k = cmp (x : ℚ) (y * 10 ^ k) := by
  have hcast : (y : ℚ) * 10 ^ k = (y * tenTo k : Int) := by simp [tenTo_eq]
  rw [hcast, (Int.cast_strictMono (R := ℚ)).cmp_map_eq, cmp_eq_compare]
  unfold compareScaled
  split
  case isTrue hy => rw [hy, zero_mul]
  case isFalse hy =>
    split
    case isFalse => rfl
    case isTrue hsmall =>
      -- The sign of `y` decides, because the multiple of `y` is farther from zero than `x` is.
      have hx := natAbs_lt_tenTo hsmall
      rw [← cmp_eq_compare, ← cmp_eq_compare]
      rcases lt_or_gt_of_ne hy with hneg | hpos
      · have hmul : y * (tenTo k : Int) ≤ -(tenTo k : Int) := by nlinarith
        rw [(cmp_eq_gt_iff _ _).mpr hneg, eq_comm, cmp_eq_gt_iff]
        omega
      · have hmul : (tenTo k : Int) ≤ y * (tenTo k : Int) := by nlinarith
        rw [(cmp_eq_lt_iff _ _).mpr hpos, eq_comm, cmp_eq_lt_iff]
        omega

/-- **The order of two numbers is that of the rational numbers.** -/
theorem compare_eq (a b : Scientific) : a.compare b = cmp a.toRat b.toRat := by
  have hscaled : ∀ c d : Scientific, c.exponent ≤ d.exponent →
      compareScaled c.significand d.significand (d.exponent - c.exponent).toNat =
        cmp c.toRat d.toRat := by
    intro c d h
    have hpos : (0 : ℚ) < 10 ^ c.exponent := by positivity
    have hexponent : (10 : ℚ) ^ d.exponent =
        10 ^ (d.exponent - c.exponent).toNat * 10 ^ c.exponent := by
      rw [← zpow_natCast, Int.toNat_of_nonneg (by omega), ← zpow_add₀ (by norm_num),
        Int.sub_add_cancel]
    rw [compareScaled_eq, toRat, toRat, hexponent, ← mul_assoc, cmp_mul_pos_right hpos]
  by_cases h : a.exponent ≤ b.exponent
  · rw [compare, if_pos h, hscaled a b h]
  · rw [compare, if_neg h, hscaled b a (by omega), cmp_swap]

/-! ## Whole numbers -/

/-- A fraction is whole if the denominator divides the numerator. -/
theorem exists_int_iff_dvd {a : Scientific} (h : a.exponent < 0) :
    (∃ z : Int, a.toRat = z) ↔ (tenTo (-a.exponent).toNat : Int) ∣ a.significand := by
  have hne : ((tenTo (-a.exponent).toNat : Int) : ℚ) ≠ 0 := by simp [tenTo_eq]
  rw [toRat_of_neg h]
  constructor
  · rintro ⟨z, hz⟩
    rw [div_eq_iff hne] at hz
    refine ⟨z, ?_⟩
    rw [mul_comm]
    exact_mod_cast hz
  · rintro ⟨z, hz⟩
    refine ⟨z, ?_⟩
    rw [hz, div_eq_iff hne, mul_comm]
    exact Int.cast_mul _ _

/-- **Whole is what equals an integer.** -/
theorem isWhole_iff (a : Scientific) : a.isWhole = true ↔ ∃ z : Int, a.toRat = z := by
  unfold isWhole
  split
  case isTrue h =>
    refine ⟨fun _ => ?_, fun _ => rfl⟩
    rw [Bool.or_eq_true, decide_eq_true_eq, decide_eq_true_eq] at h
    rcases h with h | h
    · exact ⟨_, toRat_of_nonneg h⟩
    · exact ⟨0, by simp [toRat, h]⟩
  case isFalse h =>
    rw [Bool.or_eq_true, decide_eq_true_eq, decide_eq_true_eq, not_or, not_le] at h
    rw [exists_int_iff_dvd h.1]
    dsimp only
    split
    case isTrue hsmall =>
      -- The numerator is below the denominator, and it is not zero.
      refine ⟨fun hfalse => (nomatch hfalse), fun hdvd => absurd ?_ h.2⟩
      exact Int.eq_zero_of_dvd_of_natAbs_lt_natAbs hdvd (natAbs_lt_tenTo hsmall)
    case isFalse => rw [decide_eq_true_eq, Int.dvd_iff_emod_eq_zero]

/-- **The whole part of a whole number is the number.** -/
theorem truncate_of_isWhole {a : Scientific} (h : a.isWhole = true) : (a.truncate : ℚ) = a.toRat := by
  unfold truncate
  split
  case isTrue hexponent => rw [toRat_of_nonneg hexponent]
  case isFalse hexponent =>
    rw [not_le] at hexponent
    have hdvd := (exists_int_iff_dvd hexponent).mp ((isWhole_iff a).mp h)
    dsimp only
    split
    case isTrue hsmall =>
      have hzero := Int.eq_zero_of_dvd_of_natAbs_lt_natAbs hdvd (natAbs_lt_tenTo hsmall)
      simp [toRat, hzero]
    case isFalse =>
      have hne : ((tenTo (-a.exponent).toNat : Int) : ℚ) ≠ 0 := by simp [tenTo_eq]
      rw [toRat_of_neg hexponent, eq_div_iff hne]
      exact_mod_cast Int.tdiv_mul_cancel hdvd

end Scientific

/-! ## Numbers -/

namespace Number

/-- The rational number that a number is. -/
def toRat (n : Number) : ℚ := n.exact.toRat

@[simp] theorem toRat_whole (i : Int) : (whole i).toRat = i := Scientific.toRat_ofInt i

theorem compare_eq (m n : Number) : m.compare n = cmp m.toRat n.toRat :=
  Scientific.compare_eq m.exact n.exact

theorem isWhole_iff (n : Number) : n.isWhole = true ↔ ∃ z : Int, n.toRat = z :=
  Scientific.isWhole_iff n.exact

theorem truncate_of_isWhole {n : Number} (h : n.isWhole = true) : (n.truncate : ℚ) = n.toRat :=
  Scientific.truncate_of_isWhole h

end Number

end FieldRules
