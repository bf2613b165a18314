import FieldRules.Proofs.Number.Exact
import Mathlib.Algebra.Ring.Parity
import Mathlib.Order.Monotone.Basic
import Mathlib.Tactic.GCongr
import Mathlib.Tactic.Ring

/-!
# Rounding to the nearest float

A decimal is read as the binary float that is nearest to it, and of two that are equally near as the
one whose rank is even; the magnitudes go on past the last one of them, and what would be rounded to
one of these is infinite (`Binary64.ofDecimal_cases`).

The spacing of the magnitudes is constant from one power of two to the next. Within such a stretch
rounding is rounding to the nearest integer, and magnitudes outside of it are never nearer
(`IsNearest.rank`).
-/

set_option autoImplicit false

namespace FieldRules

/-! ## The nearest point of a grid -/

/-- The point with a number is nearer to `x` than every other point of the grid is, or as near, and
then its number is even. -/
def IsNearest (grid : Nat → ℚ) (x : ℚ) (n : Nat) : Prop :=
  ∀ k, k ≠ n → |grid n - x| < |grid k - x| ∨ |grid n - x| = |grid k - x| ∧ Even n

namespace IsNearest

variable {grid : Nat → ℚ} {x : ℚ} {n : Nat}

theorem le (h : IsNearest grid x n) (k : Nat) : |grid n - x| ≤ |grid k - x| := by
  by_cases hk : k = n
  · rw [hk]
  · rcases h k hk with hlt | ⟨heq, -⟩
    · exact hlt.le
    · exact heq.le

/-- **On a grid whose points ascend there is only one nearest point.** -/
theorem unique (hgrid : StrictMono grid) {m : Nat} (hm : IsNearest grid x m)
    (hn : IsNearest grid x n) : m = n := by
  by_contra hne
  wlog hlt : m < n generalizing m n
  · exact this hn hm (Ne.symm hne) (lt_of_le_of_ne (not_lt.mp hlt) (Ne.symm hne))
  -- Both are even, so that there is a point between them, and that one is nearer.
  have heq : |grid m - x| = |grid n - x| := le_antisymm (hm.le n) (hn.le m)
  have hmeven : Even m := by
    rcases hm n (Ne.symm hne) with h | ⟨-, h⟩
    · exact absurd heq h.ne
    · exact h
  have hneven : Even n := by
    rcases hn m hne with h | ⟨-, h⟩
    · exact absurd heq.symm h.ne
    · exact h
  have hgap : m + 1 < n := by
    rcases hmeven with ⟨a, rfl⟩
    rcases hneven with ⟨b, rfl⟩
    omega
  have hbelow := hgrid (Nat.lt_succ_self m)
  have habove := hgrid hgap
  have hbetween := hm.le (m + 1)
  rcases abs_cases (grid m - x) with h | h <;> rcases abs_cases (grid n - x) with h' | h' <;>
    rcases abs_cases (grid (m + 1) - x) with h'' | h'' <;> linarith

/-- A whole number is nearest if it is not farther than a half, and even if it is as far. -/
theorem of_half (hle : |(n : ℚ) - x| ≤ 1 / 2) (heven : |(n : ℚ) - x| = 1 / 2 → Even n) :
    IsNearest Nat.cast x n := by
  intro k hk
  have hone : (1 : ℚ) ≤ |(k : ℚ) - n| := by
    have hint : (1 : Int) ≤ |(k : Int) - n| := Int.one_le_abs (sub_ne_zero.mpr (by exact_mod_cast hk))
    exact_mod_cast hint
  have htriangle : |(k : ℚ) - n| ≤ |(k : ℚ) - x| + |(n : ℚ) - x| := by
    rw [abs_sub_comm (n : ℚ) x]
    exact abs_sub_le _ _ _
  rcases hle.lt_or_eq with hlt | heq
  · left
    linarith
  · rcases eq_or_ne |(n : ℚ) - x| |(k : ℚ) - x| with hsame | hdiffer
    · exact Or.inr ⟨hsame, heven heq⟩
    · left
      exact lt_of_le_of_ne (by linarith) hdiffer

end IsNearest

namespace Binary64

/-- **Rounding half to even finds the nearest whole number.** -/
theorem isNearest_roundHalfEven (num : Nat) {den : Nat} (hden : 0 < den) :
    IsNearest Nat.cast ((num : ℚ) / den) (roundHalfEven num den) := by
  have hpos : (0 : ℚ) < den := by exact_mod_cast hden
  obtain ⟨part, hpart⟩ : ∃ part : ℚ, part = ((num % den : Nat) : ℚ) / den := ⟨_, rfl⟩
  have hnonneg : 0 ≤ part := by
    rw [hpart]
    positivity
  have hx : (num : ℚ) / den = (num / den : Nat) + part := by
    rw [hpart, add_div' _ _ _ hpos.ne']
    congr 1
    exact_mod_cast (Nat.div_add_mod' num den).symm
  have htwice : 2 * part * den = (2 * (num % den) : Nat) := by
    rw [hpart, mul_assoc, div_mul_cancel₀ _ hpos.ne']
    simp
  rw [hx]
  unfold roundHalfEven
  dsimp only
  split
  case isTrue hlt =>
    -- Less than a half is left over.
    have hhalf : part < 1 / 2 := by
      have hcast : ((2 * (num % den) : Nat) : ℚ) < den := by exact_mod_cast hlt
      nlinarith
    have habs : |((num / den : Nat) : ℚ) - ((num / den : Nat) + part)| = part := by
      rw [sub_add_cancel_left, abs_neg, abs_of_nonneg hnonneg]
    exact .of_half (habs.trans_le hhalf.le) fun h => absurd (habs.symm.trans h) hhalf.ne
  case isFalse hge =>
    split
    case isTrue hgt =>
      have hone : part < 1 := by
        rw [hpart, div_lt_one hpos]
        exact_mod_cast Nat.mod_lt num hden
      have hhalf : 1 / 2 < part := by
        have hcast : (den : ℚ) < (2 * (num % den) : Nat) := by exact_mod_cast hgt
        nlinarith
      have habs : |((num / den + 1 : Nat) : ℚ) - ((num / den : Nat) + part)| = 1 - part := by
        rw [Nat.cast_add_one, add_sub_add_left_eq_sub, abs_of_pos (by linarith)]
      exact .of_half (by rw [habs]; linarith) fun h => by
        rw [habs] at h
        linarith
    case isFalse hle =>
      -- It is a half, and of the two whole numbers the even one is taken.
      have hhalf : part = 1 / 2 := by
        have hcast : ((2 * (num % den) : Nat) : ℚ) = den := by
          exact_mod_cast Nat.le_antisymm (not_lt.mp hle) (not_lt.mp hge)
        nlinarith
      have heven : Even (num / den + num / den % 2) := by
        rw [Nat.even_iff]
        omega
      have habs : |((num / den + num / den % 2 : Nat) : ℚ) - ((num / den : Nat) + part)| = 1 / 2 := by
        rw [hhalf, Nat.cast_add, add_sub_add_left_eq_sub]
        rcases Nat.mod_two_eq_zero_or_one (num / den) with h | h <;> rw [h] <;> norm_num
      exact .of_half habs.le fun _ => heven

/-! ## Magnitudes -/

/-- The distance from one magnitude to the next in a block. -/
def spacing (block : Nat) : ℚ := 2 ^ ((block : Int) - 1074)

theorem spacing_pos (block : Nat) : 0 < spacing block := by
  unfold spacing
  positivity

theorem spacing_add (block k : Nat) : spacing (block + k) = 2 ^ k * spacing block := by
  unfold spacing
  rw [← zpow_natCast, ← zpow_add₀ (by norm_num)]
  congr 1
  push_cast
  ring

/-- The magnitude of a rank. -/
def magnitude (rank : Nat) : ℚ := significandOf rank * spacing (block rank)

/-- The ranks of a block, and the first one of the next. -/
theorem magnitude_eq {block steps : Nat} (hlow : block = 0 ∨ 0x10000000000000 ≤ steps)
    (hhigh : steps ≤ 2 * 0x10000000000000) :
    magnitude (block * 0x10000000000000 + steps) = steps * spacing block := by
  unfold magnitude
  rcases hhigh.lt_or_eq with hlt | rfl
  · have hblock : Binary64.block (block * 0x10000000000000 + steps) = block := by
      unfold Binary64.block
      omega
    have hsteps : significandOf (block * 0x10000000000000 + steps) = steps := by
      unfold significandOf
      rw [hblock]
      omega
    rw [hblock, hsteps]
  · have hblock : Binary64.block (block * 0x10000000000000 + 2 * 0x10000000000000) = block + 1 := by
      unfold Binary64.block
      omega
    have hsteps : significandOf (block * 0x10000000000000 + 2 * 0x10000000000000) =
        0x10000000000000 := by
      unfold significandOf
      rw [hblock]
      omega
    rw [hblock, hsteps, spacing_add]
    push_cast
    ring

theorem eq_block_add_significandOf (rank : Nat) :
    rank = block rank * 0x10000000000000 + significandOf rank := by
  unfold significandOf block
  omega

/-- The next magnitude is one step of the block away. -/
theorem magnitude_succ (rank : Nat) : magnitude (rank + 1) = magnitude rank + spacing (block rank) := by
  have hlow : block rank = 0 ∨ 0x10000000000000 ≤ significandOf rank := by
    unfold significandOf block
    omega
  have hhigh := significandOf_lt rank
  have hnext : rank + 1 = block rank * 0x10000000000000 + (significandOf rank + 1) := by
    rw [← add_assoc, ← eq_block_add_significandOf]
  rw [hnext, magnitude_eq (hlow.imp_right Nat.le_succ_of_le) hhigh, magnitude]
  push_cast
  ring

theorem magnitude_strictMono : StrictMono magnitude := by
  apply strictMono_nat_of_lt_succ
  intro rank
  rw [magnitude_succ]
  exact lt_add_of_pos_right _ (spacing_pos _)

/-! ## The nearest rank -/

/-- What is nearest to a number that is below a whole number is not above that one. -/
theorem le_of_isNearest {x : ℚ} {n bound : Nat} (h : IsNearest Nat.cast x n) (hx : x ≤ bound) :
    n ≤ bound := by
  by_contra hlt
  have hcast : (bound : ℚ) < n := by exact_mod_cast not_le.mp hlt
  have hle := h.le bound
  rw [abs_of_nonneg (by linarith), abs_of_nonneg (by linarith)] at hle
  linarith

theorem ge_of_isNearest {x : ℚ} {n bound : Nat} (h : IsNearest Nat.cast x n) (hx : bound ≤ x) :
    bound ≤ n := by
  by_contra hlt
  have hcast : (n : ℚ) < bound := by exact_mod_cast not_le.mp hlt
  have hle := h.le bound
  rw [abs_of_nonpos (by linarith), abs_of_nonpos (by linarith)] at hle
  linarith

/-- From the block on, every magnitude is a multiple of its spacing. -/
theorem magnitude_of_le {block rank : Nat} (h : block ≤ Binary64.block rank) :
    magnitude rank = (significandOf rank * 2 ^ (Binary64.block rank - block) : Nat) * spacing block := by
  obtain ⟨k, hk⟩ := Nat.exists_eq_add_of_le h
  rw [magnitude, hk, spacing_add, Nat.add_sub_cancel_left]
  push_cast
  ring

/-- Before the block, every magnitude is below the first one of it. -/
theorem magnitude_lt_of_lt {block rank : Nat} (h : Binary64.block rank < block) :
    magnitude rank < 0x10000000000000 * spacing block := by
  obtain ⟨k, hk⟩ := Nat.exists_eq_add_of_lt h
  have hsig : (significandOf rank : ℚ) < 2 * 0x10000000000000 := by
    exact_mod_cast significandOf_lt rank
  have hpow : (1 : ℚ) ≤ 2 ^ k := one_le_pow₀ (by norm_num)
  have hpos := spacing_pos (Binary64.block rank)
  rw [hk, spacing_add, spacing_add]
  calc magnitude rank < 2 * 0x10000000000000 * spacing (Binary64.block rank) :=
        mul_lt_mul_of_pos_right hsig hpos
    _ = 0x10000000000000 * (2 ^ 1 * (1 * spacing (Binary64.block rank))) := by ring
    _ ≤ 0x10000000000000 * (2 ^ 1 * (2 ^ k * spacing (Binary64.block rank))) := by gcongr

/-- **Within a block the nearest rank is the nearest whole number of steps.** -/
theorem isNearest_magnitude {block steps : Nat} {x : ℚ} (h : IsNearest Nat.cast x steps)
    (hlow : block = 0 ∨ 0x10000000000000 ≤ x) (hhigh : x ≤ 2 * 0x10000000000000) :
    IsNearest magnitude (x * spacing block) (block * 0x10000000000000 + steps) := by
  have hsteps : steps ≤ 2 * 0x10000000000000 := le_of_isNearest h (by exact_mod_cast hhigh)
  have hfirst : block = 0 ∨ 0x10000000000000 ≤ steps :=
    hlow.imp_right fun hlow => ge_of_isNearest h (by exact_mod_cast hlow)
  have hmagnitude := magnitude_eq hfirst hsteps
  have hpos := spacing_pos block
  have hscale : ∀ y : ℚ, |y * spacing block - x * spacing block| = |y - x| * spacing block := by
    intro y
    rw [← sub_mul, abs_mul, abs_of_pos hpos]
  intro other hne
  rw [hmagnitude, hscale]
  by_cases hblock : block ≤ Binary64.block other
  · -- The other magnitude is a whole number of the same steps.
    rw [magnitude_of_le hblock, hscale]
    have hother : significandOf other * 2 ^ (Binary64.block other - block) ≠ steps := by
      intro heq
      apply hne
      apply magnitude_strictMono.injective
      rw [magnitude_of_le hblock, heq, hmagnitude]
    rcases h _ hother with hlt | ⟨heq, heven⟩
    · exact Or.inl (mul_lt_mul_of_pos_right hlt hpos)
    · refine Or.inr ⟨by rw [heq], ?_⟩
      exact (Even.mul_left (by decide) block).add heven
  · -- It is below the block, and the first magnitude of the block is nearer.
    rw [not_le] at hblock
    have hx : (0x10000000000000 : ℚ) ≤ x := hlow.resolve_left (by omega)
    have hbelow := magnitude_lt_of_lt hblock
    have hle := h.le 0x10000000000000
    left
    calc |(steps : ℚ) - x| * spacing block
        ≤ |((0x10000000000000 : Nat) : ℚ) - x| * spacing block :=
          mul_le_mul_of_nonneg_right hle hpos.le
      _ = x * spacing block - 0x10000000000000 * spacing block := by
          rw [abs_sub_comm, abs_of_nonneg (by exact_mod_cast sub_nonneg.mpr hx)]
          push_cast
          ring
      _ < x * spacing block - magnitude other := by linarith
      _ ≤ |magnitude other - x * spacing block| := by
          rw [abs_sub_comm]
          exact le_abs_self _

/-! ## Fractions -/

/-- The logarithm of a fraction, from the bit lengths and a comparison. -/
def floorLog (num den : Nat) : Int :=
  let lead : Int := (num.log2 : Int) - den.log2 - 1
  let reaches : Bool :=
    if 0 ≤ lead + 1 then den * twoTo (lead + 1).toNat ≤ num
    else den ≤ num * twoTo (-(lead + 1)).toNat
  if reaches then lead + 1 else lead

/-- The number of steps to a fraction in a block, rounded. -/
def roundedSteps (num den block : Nat) : Nat :=
  if 1074 ≤ block then roundHalfEven num (den * twoTo (block - 1074))
  else roundHalfEven (num * twoTo (1074 - block)) den

theorem rankOfFraction_eq (num den : Nat) :
    rankOfFraction num den = (floorLog num den + 1022).toNat * 0x10000000000000 +
      roundedSteps num den (floorLog num den + 1022).toNat := rfl

/-- The comparison of a fraction with a power of two, without fractions. -/
theorem pow_le_div_iff (num : Nat) {den : Nat} (hden : 0 < den) (k : Int) :
    (2 : ℚ) ^ k ≤ num / den ↔
      if 0 ≤ k then den * twoTo k.toNat ≤ num else den ≤ num * twoTo (-k).toNat := by
  have hpos : (0 : ℚ) < den := by exact_mod_cast hden
  rw [le_div_iff₀ hpos]
  split
  case isTrue h =>
    have hpow : (2 : ℚ) ^ k = (twoTo k.toNat : Nat) := by
      rw [twoTo_eq, Nat.cast_pow, ← zpow_natCast, Int.toNat_of_nonneg h]
      norm_num
    rw [hpow, mul_comm]
    exact_mod_cast Iff.rfl
  case isFalse h =>
    have hpow : (2 : ℚ) ^ k = ((twoTo (-k).toNat : Nat) : ℚ)⁻¹ := by
      rw [twoTo_eq, Nat.cast_pow, ← zpow_natCast, Int.toNat_of_nonneg (by omega), zpow_neg, inv_inv]
      norm_num
    have htwo : (0 : ℚ) < (twoTo (-k).toNat : Nat) := by exact_mod_cast twoTo_pos _
    rw [hpow, inv_mul_le_iff₀ htwo, mul_comm]
    exact_mod_cast Iff.rfl

theorem pow_log2_le {n : Nat} (h : 0 < n) : (2 : ℚ) ^ (n.log2 : Int) ≤ n := by
  rw [zpow_natCast]
  exact_mod_cast Nat.log2_self_le h.ne'

theorem lt_pow_log2 (n : Nat) : (n : ℚ) < 2 ^ ((n.log2 : Int) + 1) := by
  rw [← Nat.cast_succ, zpow_natCast]
  exact_mod_cast Nat.lt_log2_self

/-- **The logarithm is the one of the power of two below the fraction.** The bit lengths give it up
to one, and the comparison with the power in between settles it. -/
theorem floorLog_spec {num den : Nat} (hnum : 0 < num) (hden : 0 < den) :
    (2 : ℚ) ^ floorLog num den ≤ num / den ∧ (num : ℚ) / den < 2 ^ (floorLog num den + 1) := by
  have hpos : (0 : ℚ) < den := by exact_mod_cast hden
  obtain ⟨lead, hlead⟩ : ∃ lead : Int, lead = (num.log2 : Int) - den.log2 - 1 := ⟨_, rfl⟩
  have hlow : (2 : ℚ) ^ lead ≤ num / den := by
    rw [le_div_iff₀ hpos]
    calc (2 : ℚ) ^ lead * den ≤ 2 ^ lead * 2 ^ ((den.log2 : Int) + 1) := by
          gcongr
          exact (lt_pow_log2 den).le
      _ = 2 ^ (num.log2 : Int) := by
          rw [← zpow_add₀ (by norm_num)]
          congr 1
          omega
      _ ≤ num := pow_log2_le hnum
  have hhigh : (num : ℚ) / den < 2 ^ (lead + 1 + 1) := by
    rw [div_lt_iff₀ hpos]
    calc (num : ℚ) < 2 ^ ((num.log2 : Int) + 1) := lt_pow_log2 num
      _ = 2 ^ (lead + 1 + 1) * 2 ^ (den.log2 : Int) := by
          rw [← zpow_add₀ (by norm_num)]
          congr 1
          omega
      _ ≤ 2 ^ (lead + 1 + 1) * den := by
          gcongr
          exact pow_log2_le hden
  have hiff := pow_le_div_iff num hden (lead + 1)
  unfold floorLog
  dsimp only
  rw [← hlead]
  split_ifs with hsign hreaches hreaches <;> rw [decide_eq_true_eq] at hreaches
  · rw [if_pos hsign] at hiff
    exact ⟨hiff.mpr hreaches, hhigh⟩
  · rw [if_pos hsign] at hiff
    exact ⟨hlow, not_le.mp fun h => hreaches (hiff.mp h)⟩
  · rw [if_neg hsign] at hiff
    exact ⟨hiff.mpr hreaches, hhigh⟩
  · rw [if_neg hsign] at hiff
    exact ⟨hlow, not_le.mp fun h => hreaches (hiff.mp h)⟩

theorem isNearest_roundedSteps (num : Nat) {den : Nat} (hden : 0 < den) (block : Nat) :
    IsNearest Nat.cast ((num : ℚ) / den / spacing block) (roundedSteps num den block) := by
  have hpos : (0 : ℚ) < den := by exact_mod_cast hden
  unfold roundedSteps
  split
  case isTrue h =>
    have hspacing : spacing block = (twoTo (block - 1074) : Nat) := by
      rw [twoTo_eq, Nat.cast_pow, spacing, ← zpow_natCast, Nat.cast_sub h]
      norm_num
    have hx : (num : ℚ) / den / spacing block = num / (den * twoTo (block - 1074) : Nat) := by
      rw [hspacing, div_div, Nat.cast_mul]
    rw [hx]
    exact isNearest_roundHalfEven num (Nat.mul_pos hden (twoTo_pos _))
  case isFalse h =>
    have hspacing : spacing block = ((twoTo (1074 - block) : Nat) : ℚ)⁻¹ := by
      rw [twoTo_eq, Nat.cast_pow, spacing, ← zpow_natCast, Nat.cast_sub (by omega), ← zpow_neg]
      norm_num
    have hx : (num : ℚ) / den / spacing block = (num * twoTo (1074 - block) : Nat) / den := by
      rw [hspacing, div_inv_eq_mul, Nat.cast_mul, div_mul_eq_mul_div]
    rw [hx]
    exact isNearest_roundHalfEven _ hden

/-- **The rank of a fraction is the nearest one.** -/
theorem isNearest_rankOfFraction {num den : Nat} (hnum : 0 < num) (hden : 0 < den) :
    IsNearest magnitude ((num : ℚ) / den) (rankOfFraction num den) := by
  obtain ⟨hlow, hhigh⟩ := floorLog_spec hnum hden
  obtain ⟨block, hblock⟩ : ∃ block : Nat, block = (floorLog num den + 1022).toNat := ⟨_, rfl⟩
  have hsteps := isNearest_roundedSteps num hden block
  have hpos := spacing_pos block
  have hx : (num : ℚ) / den / spacing block * spacing block = num / den :=
    div_mul_cancel₀ _ hpos.ne'
  rw [rankOfFraction_eq, ← hblock, ← hx]
  apply isNearest_magnitude hsteps
  · -- Unless the block is the first one, the fraction is not below the block.
    rcases Nat.eq_zero_or_pos block with hzero | hblockpos
    · exact Or.inl hzero
    · right
      rw [le_div_iff₀ hpos]
      calc (0x10000000000000 : ℚ) * spacing block = 2 ^ floorLog num den := by
            have hbits : (0x10000000000000 : ℚ) = 2 ^ (52 : Int) := by norm_num
            rw [hbits, spacing, ← zpow_add₀ (by norm_num)]
            congr 1
            omega
        _ ≤ num / den := hlow
  · rw [div_le_iff₀ hpos]
    calc (num : ℚ) / den ≤ 2 ^ (floorLog num den + 1) := hhigh.le
      _ ≤ 2 ^ ((53 : Int) + (block - 1074)) := by
          apply zpow_le_zpow_right₀ (by norm_num)
          omega
      _ = 2 * 0x10000000000000 * spacing block := by
          rw [zpow_add₀ (by norm_num), spacing]
          norm_num

/-! ## The range -/

/-- The least magnitude that is too great: halfway between the greatest of a float and the next power
of two. -/
def overflow : ℚ := 2 ^ 1024 - 2 ^ 970

theorem overflow_eq : overflow = (2 ^ 54 - 1) * 2 ^ 970 := by
  rw [overflow, sub_one_mul, ← pow_add]

theorem spacing_last (k : Nat) : spacing (2044 + k) = 2 ^ k * 2 ^ 970 := by
  rw [spacing_add, spacing, ← zpow_natCast _ 970]
  congr 1

theorem magnitude_greatest : magnitude (2047 * 0x10000000000000 - 1) = overflow - 2 ^ 970 := by
  have hrank : 2047 * 0x10000000000000 - 1 =
      (2044 + 1) * 0x10000000000000 + (2 * 0x10000000000000 - 1) := by norm_num
  rw [hrank, magnitude_eq (Or.inr (by norm_num)) (by norm_num), spacing_last, overflow_eq]
  generalize (2 : ℚ) ^ 970 = half
  norm_num
  ring

theorem magnitude_next : magnitude (2047 * 0x10000000000000) = overflow + 2 ^ 970 := by
  have hrank : 2047 * 0x10000000000000 = (2044 + 1) * 0x10000000000000 + 2 * 0x10000000000000 := by
    norm_num
  rw [hrank, magnitude_eq (Or.inr (by norm_num)) (by norm_num), spacing_last, overflow_eq]
  generalize (2 : ℚ) ^ 970 = half
  norm_num
  ring

/-- **The nearest rank is the rank of a float if the number is not too great.** Just at the limit the
greatest float is as near as the next power of two, but its rank is odd. -/
theorem lt_iff_of_isNearest {x : ℚ} {rank : Nat} (h : IsNearest magnitude x rank) :
    rank < 2047 * 0x10000000000000 ↔ x < overflow := by
  have hgreatest := magnitude_greatest
  have hnext := magnitude_next
  have hhalf : (0 : ℚ) < 2 ^ 970 := by positivity
  generalize (2 : ℚ) ^ 970 = half at hgreatest hnext hhalf
  constructor
  · intro hrank
    by_contra hx
    rw [not_lt] at hx
    have hle : magnitude rank ≤ magnitude (2047 * 0x10000000000000 - 1) :=
      magnitude_strictMono.monotone (by omega)
    rw [hgreatest] at hle
    have hnear := h (2047 * 0x10000000000000) (by omega)
    rw [hnext, abs_of_neg (by linarith)] at hnear
    rcases hnear with hlt | ⟨heq, heven⟩
    · rcases abs_cases (overflow + half - x) with ⟨habs, -⟩ | ⟨habs, -⟩ <;> linarith
    · have hodd : magnitude rank = magnitude (2047 * 0x10000000000000 - 1) := by
        rw [hgreatest]
        rcases abs_cases (overflow + half - x) with ⟨habs, -⟩ | ⟨habs, -⟩ <;> linarith
      rw [magnitude_strictMono.injective hodd] at heven
      exact absurd heven (by decide)
  · intro hx
    by_contra hrank
    rw [not_lt] at hrank
    have hge : magnitude (2047 * 0x10000000000000) ≤ magnitude rank :=
      magnitude_strictMono.monotone hrank
    rw [hnext] at hge
    have hnear := h.le (2047 * 0x10000000000000 - 1)
    rw [hgreatest, abs_of_pos (by linarith)] at hnear
    rcases abs_cases (overflow - half - x) with ⟨habs, -⟩ | ⟨habs, -⟩ <;> linarith

/-! ## Decimals -/

theorem isNearest_zero {x : ℚ} (hx : 0 ≤ x) (h : x < spacing 0 / 2) : IsNearest magnitude x 0 := by
  have hzero : magnitude 0 = 0 := by simp [magnitude, significandOf]
  intro k hk
  left
  have hone : spacing 0 ≤ magnitude k := by
    calc spacing 0 = magnitude 1 := by simp [magnitude, significandOf, block]
      _ ≤ magnitude k := magnitude_strictMono.monotone (by omega)
  rw [hzero, zero_sub, abs_neg, abs_of_nonneg hx, abs_of_pos (by linarith)]
  linarith

/-- A decimal with so few bits for its places is less than half the smallest magnitude. -/
theorem div_tenTo_lt {coefficient places : Nat} (h : coefficient.log2 + 1076 ≤ 3 * places) :
    (coefficient : ℚ) / tenTo places < spacing 0 / 2 := by
  have hpos : (0 : ℚ) < tenTo places := by
    rw [tenTo_eq]
    positivity
  rw [div_lt_iff₀ hpos]
  calc (coefficient : ℚ) < 2 ^ ((coefficient.log2 : Int) + 1) := lt_pow_log2 coefficient
    _ ≤ 2 ^ ((3 * places : Int) - 1075) := by
        apply zpow_le_zpow_right₀ (by norm_num)
        omega
    _ = spacing 0 / 2 * 8 ^ places := by
        have height : (8 : ℚ) ^ places = 2 ^ (3 * places : Int) := by
          rw [zpow_mul, zpow_natCast]
          norm_num
        have hhalf : spacing 0 / 2 = 2 ^ (-1075 : Int) := by
          rw [div_eq_iff (by norm_num), spacing, ← zpow_add_one₀ (by norm_num)]
          norm_num
        rw [height, hhalf, ← zpow_add₀ (by norm_num)]
        congr 1
    _ ≤ spacing 0 / 2 * tenTo places := by
        have hspacing := spacing_pos 0
        rw [tenTo_eq, Nat.cast_pow]
        gcongr
        norm_num

theorem ofRank_cases {negative : Bool} {x : ℚ} {rank : Nat} (h : IsNearest magnitude x rank) :
    (x < overflow ∧ ∃ nearest : Fin (2047 * 0x10000000000000), IsNearest magnitude x nearest ∧
      ofRank negative rank = finite negative nearest) ∨
    overflow ≤ x ∧ ofRank negative rank = infinity negative := by
  unfold ofRank
  split
  case isTrue hrank =>
    exact Or.inl ⟨(lt_iff_of_isNearest h).mp hrank, ⟨rank, hrank⟩, h, rfl⟩
  case isFalse hrank =>
    exact Or.inr ⟨not_lt.mp fun hx => hrank ((lt_iff_of_isNearest h).mpr hx), rfl⟩

theorem overflow_le_tenTo {k : Nat} (h : 310 ≤ k) : overflow ≤ tenTo k := by
  have hpow : 2 ^ 1024 ≤ tenTo 310 := by decide +kernel
  have hhalf : (0 : ℚ) ≤ 2 ^ 970 := by positivity
  calc overflow ≤ 2 ^ 1024 := sub_le_self _ hhalf
    _ ≤ tenTo 310 := by exact_mod_cast hpow
    _ ≤ tenTo k := by exact_mod_cast Numeral.tenTo_le_tenTo h

/-- **A decimal is read as the float that is nearest to it**, unless it is too great. -/
theorem ofDecimal_cases (negative : Bool) (coefficient : Nat) (exponent : Int) {x : ℚ}
    (hx : x = coefficient * 10 ^ exponent) :
    (x < overflow ∧ ∃ nearest : Fin (2047 * 0x10000000000000), IsNearest magnitude x nearest ∧
      ofDecimal negative coefficient exponent = finite negative nearest) ∨
    overflow ≤ x ∧ ofDecimal negative coefficient exponent = infinity negative := by
  unfold ofDecimal
  split_ifs with hzero hgreat hexponent
  · rw [hzero, Nat.cast_zero, zero_mul] at hx
    rw [hx]
    exact ofRank_cases (isNearest_zero le_rfl (half_pos (spacing_pos 0)))
  · refine Or.inr ⟨?_, rfl⟩
    have hone : (1 : ℚ) ≤ coefficient := by exact_mod_cast Nat.pos_of_ne_zero hzero
    calc overflow ≤ tenTo exponent.toNat := overflow_le_tenTo (by omega)
      _ = 10 ^ exponent := by
          rw [tenTo_eq, Nat.cast_pow, ← zpow_natCast, Int.toNat_of_nonneg (by omega)]
          norm_num
      _ ≤ x := by
          rw [hx]
          exact le_mul_of_one_le_left (by positivity) hone
  · have hfraction : x = (coefficient * tenTo exponent.toNat : Nat) / (1 : Nat) := by
      rw [hx, Nat.cast_one, div_one, Nat.cast_mul, tenTo_eq, Nat.cast_pow, ← zpow_natCast,
        Int.toNat_of_nonneg hexponent]
      norm_num
    rw [hfraction]
    have hpos : 0 < coefficient * tenTo exponent.toNat :=
      Nat.mul_pos (Nat.pos_of_ne_zero hzero) (Nat.pow_pos (by decide))
    exact ofRank_cases (isNearest_rankOfFraction hpos Nat.one_pos)
  · have hfraction : x = coefficient / tenTo (-exponent).toNat := by
      rw [hx, tenTo_eq, Nat.cast_pow, ← zpow_natCast, Int.toNat_of_nonneg (by omega), zpow_neg,
        div_inv_eq_mul]
      norm_num
    rw [hfraction]
    dsimp only
    split_ifs with hsmall
    · exact ofRank_cases (isNearest_zero (by positivity) (div_tenTo_lt hsmall))
    · exact ofRank_cases (isNearest_rankOfFraction (Nat.pos_of_ne_zero hzero)
        (Nat.pow_pos (by decide)))

/-! ## The exact value of a float -/

/-- The factor of a sign. -/
def sign (negative : Bool) : ℚ := if negative then -1 else 1

theorem cast_signed (negative : Bool) (n : Nat) : (signed negative n : ℚ) = sign negative * n := by
  cases negative <;> simp [signed, sign]

/-- **The exact value has the magnitude of the rank.** -/
theorem toRat_exactAt (negative : Bool) (rank : Nat) :
    (exactAt negative rank).toRat = sign negative * magnitude rank := by
  unfold exactAt
  dsimp only
  split
  case isTrue h =>
    have hspacing : spacing (block rank) = (twoTo (block rank - 1074) : Nat) := by
      rw [twoTo_eq, Nat.cast_pow, spacing, ← zpow_natCast, Nat.cast_sub h]
      norm_num
    rw [Scientific.toRat, cast_signed, magnitude, hspacing]
    push_cast
    ring
  case isFalse h =>
    have hspacing : spacing (block rank) =
        (Nat.pow 5 (1074 - block rank) : Nat) * 10 ^ (-(1074 - block rank : Nat) : Int) := by
      have hfive : ((Nat.pow 5 (1074 - block rank) : Nat) : ℚ) = 5 ^ (1074 - block rank) :=
        Nat.cast_pow _ _
      have hten : (10 : ℚ) = 5 * 2 := by norm_num
      rw [hfive, hten, mul_zpow, ← mul_assoc, ← zpow_natCast, ← zpow_add₀ (by norm_num), add_neg_cancel,
        zpow_zero, one_mul, spacing, Nat.cast_sub (by omega), neg_sub]
      norm_num
    rw [Scientific.toRat, cast_signed, magnitude, hspacing]
    push_cast
    ring

end Binary64

theorem Number.toRat_binary (negative : Bool) (rank : Fin (2047 * 0x10000000000000)) :
    (binary negative rank).toRat = Binary64.sign negative * Binary64.magnitude rank :=
  Binary64.toRat_exactAt negative rank

end FieldRules
