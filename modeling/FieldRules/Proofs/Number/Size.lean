import FieldRules.Fault
import Mathlib.Data.List.Induction

/-!
# Numbers that can be written

A whole number has a text only below a certain size (`Numeral.textless`), so it matters which numbers
can come up during validation. Reading a text never gives one that is too large: a numeral with too
many digits is not read as a whole number, and what it is read as instead, a binary float, stays far
below (`Value.isShort_text`, `Number.natAbs_truncate_binary`). Only whole numbers and decimals that
are given as such can be too large.
-/

set_option autoImplicit false

namespace FieldRules

/-! ## Numerals -/

namespace Numeral

theorem wholeText?_eq_none_iff (i : Int) : wholeText? i = none ↔ textless ≤ i.natAbs := by
  unfold wholeText?
  split
  · constructor
    · exact fun h => nomatch h
    · intro h
      omega
  · exact ⟨fun _ => by omega, fun _ => rfl⟩

theorem lt_ten_of_groupedDigits {afterDigit : Bool} {cs : List Char} {ds : List Nat}
    (h : groupedDigits afterDigit cs = some ds) : ∀ d ∈ ds, d < 10 := by
  induction cs generalizing afterDigit ds with
  | nil =>
    rw [groupedDigits] at h
    split at h
    · rw [← Option.some.inj h]
      exact fun d hd => absurd hd (by simp)
    · exact nomatch h
  | cons c rest ih =>
    rw [groupedDigits] at h
    split at h
    · split at h
      · exact ih h
      · exact nomatch h
    · split at h
      case h_1 d hd =>
        obtain ⟨others, ho, rfl⟩ := Option.map_eq_some_iff.mp h
        intro e he
        rcases List.mem_cons.mp he with rfl | he
        · exact Text.digitValue?_lt hd
        · exact ih ho e he
      case h_2 => exact nomatch h

/-- A number with so many decimal digits is below that power of ten. -/
theorem ofDigits_lt {ds : List Nat} (h : ∀ d ∈ ds, d < 10) : ofDigits ds < tenTo ds.length := by
  induction ds using List.reverseRecOn with
  | nil => exact Nat.one_pos
  | append_singleton ds d ih =>
    have hds : ofDigits ds < 10 ^ ds.length := ih fun e he => h e (by simp [he])
    have hd : d < 10 := h d (by simp)
    have hstep : ofDigits (ds ++ [d]) = 10 * ofDigits ds + d := by simp [ofDigits]
    show ofDigits (ds ++ [d]) < 10 ^ (ds ++ [d]).length
    rw [hstep, List.length_append, List.length_singleton, Nat.pow_succ]
    omega

theorem tenTo_le_tenTo {m n : Nat} (h : m ≤ n) : tenTo m ≤ tenTo n :=
  Nat.pow_le_pow_right (by decide) h

theorem natAbs_signed (negative : Bool) (n : Nat) : (Binary64.signed negative n).natAbs = n := by
  cases negative <;> simp [Binary64.signed]

/-- **What is read as a whole number can be written.** -/
theorem natAbs_lt_of_readWhole? {cs : List Char} {i : Int} (h : readWhole? cs = some i) :
    i.natAbs < textless := by
  unfold readWhole? at h
  simp only at h
  split at h
  case h_1 ds hds =>
    split at h
    case isTrue hlen =>
      rw [← Option.some.inj h, natAbs_signed]
      calc ofDigits ds < tenTo ds.length := ofDigits_lt (lt_ten_of_groupedDigits hds)
        _ ≤ tenTo digitLimit := tenTo_le_tenTo hlen
    case isFalse => exact nomatch h
  case h_2 => exact nomatch h

end Numeral

/-! ## Binary floats -/

namespace Binary64

theorem twoTo_pos (k : Nat) : 0 < twoTo k := Nat.two_pow_pos k

theorem twoTo_le_twoTo {j k : Nat} (h : j ≤ k) : twoTo j ≤ twoTo k :=
  Nat.pow_le_pow_right (by decide) h

theorem significandOf_lt (rank : Nat) : significandOf rank < 2 * 0x10000000000000 := by
  unfold significandOf block
  omega

theorem natAbs_truncate_whole (negative : Bool) (n : Nat) :
    (Scientific.truncate ⟨signed negative n, 0⟩).natAbs = n := by
  show (Scientific.truncate (.ofInt (signed negative n))).natAbs = n
  rw [Scientific.truncate_ofInt, Numeral.natAbs_signed]

/-- A float that is not in one of the last blocks is a fraction, with so many places as make its
whole part less than its significand. -/
theorem natAbs_truncate_fraction_le (negative : Bool) (significand places : Nat) :
    (Scientific.truncate ⟨signed negative (significand * Nat.pow 5 places),
      -(places : Int)⟩).natAbs ≤ significand := by
  have hpow : Nat.pow 5 places ≤ tenTo places := Nat.pow_le_pow_left (by decide) places
  have hpos : 0 < tenTo places := Nat.pow_pos (by decide)
  unfold Scientific.truncate
  simp only
  split
  case isTrue hplaces =>
    -- Without places the fraction is whole.
    have hzero : places = 0 := by omega
    subst hzero
    rw [Int.natAbs_mul, Numeral.natAbs_signed]
    exact Nat.le_of_eq (by simp [tenTo])
  case isFalse =>
    split
    · exact Nat.zero_le _
    · rw [Int.natAbs_tdiv, Numeral.natAbs_signed, Int.neg_neg, Int.toNat_natCast, Int.natAbs_natCast]
      refine Nat.div_le_of_le_mul ?_
      rw [Nat.mul_comm (tenTo places)]
      exact Nat.mul_le_mul_left significand hpow

theorem natAbs_truncate_exactAt_lt (negative : Bool) {rank : Nat}
    (h : rank < 2047 * 0x10000000000000) :
    (exactAt negative rank).truncate.natAbs < Numeral.textless := by
  have hsig := significandOf_lt rank
  have hbig : 2 * 0x10000000000000 * twoTo 971 < Numeral.textless := by decide +kernel
  unfold exactAt
  simp only
  split
  case isTrue hscale =>
    -- Whole from here on: the significand is shifted by the block, and there are 2046 of these.
    have hblock : block rank - 1074 ≤ 971 := by
      unfold block
      omega
    have hpow : twoTo (block rank - 1074) ≤ twoTo 971 := twoTo_le_twoTo hblock
    rw [natAbs_truncate_whole]
    exact Nat.lt_of_le_of_lt (Nat.mul_le_mul (Nat.le_of_lt hsig) hpow) hbig
  case isFalse hscale =>
    have hle : significandOf rank ≤ 2 * 0x10000000000000 * twoTo 971 :=
      Nat.le_trans (Nat.le_of_lt hsig) (Nat.le_mul_of_pos_right _ (twoTo_pos 971))
    refine Nat.lt_of_le_of_lt (Nat.le_trans ?_ hle) hbig
    exact natAbs_truncate_fraction_le negative _ _

end Binary64

/-- A binary float is small enough for its whole part to be written. -/
theorem Number.natAbs_truncate_binary (negative : Bool) (rank : Fin (2047 * 0x10000000000000)) :
    (Number.binary negative rank).truncate.natAbs < Numeral.textless :=
  Binary64.natAbs_truncate_exactAt_lt negative rank.isLt

/-! ## Values -/

namespace Value

/-- If the value is or denotes a number, the whole part of it can be written. -/
def IsShort (v : Value) : Prop :=
  ∀ n : Number, v.number? = some n → n.truncate.natAbs < Numeral.textless

/-- **A text never denotes a number that is too large.** -/
theorem isShort_text (s : String) : (text s).IsShort := by
  intro n hn
  unfold number? Number.ofText? at hn
  simp only at hn
  split at hn
  case h_1 i hi =>
    rw [← Option.some.inj hn]
    show (Number.truncate (.whole i)).natAbs < _
    rw [Number.truncate, Number.exact, Scientific.truncate_ofInt]
    exact Numeral.natAbs_lt_of_readWhole? hi
  case h_2 =>
    obtain ⟨x, -, hx⟩ := Option.bind_eq_some_iff.mp hn
    cases x with
    | finite negative rank =>
      rw [← Option.some.inj hx]
      exact Number.natAbs_truncate_binary negative rank
    | _ => exact nomatch hx

theorem isShort_ofNumber {n : Number} (h : n.truncate.natAbs < Numeral.textless) :
    (ofNumber n).IsShort := by
  intro m hm
  rw [number?_ofNumber, Option.some.injEq] at hm
  rw [← hm]
  exact h

/-- **Only a number that is too large has no plain text**, among the values that can have one. -/
theorem plainText_of_isShort {v : Value} (hv : v.isPrimitive = true) (h : v.IsShort) :
    ∃ s, v.plainText = .ok s := by
  have hwhole : ∀ i : Int, i.natAbs < Numeral.textless → ∃ s, Numeral.wholeText? i = some s := by
    intro i hi
    exact ⟨_, if_pos hi⟩
  have hsome : ∀ s, v.plainText? = some s → ∃ s, v.plainText = .ok s := by
    intro s hs
    unfold plainText
    rw [hs]
    exact ⟨s, rfl⟩
  cases v with
  | bool b => exact hsome _ rfl
  | int i =>
    have hi := h (.whole i) rfl
    rw [Number.truncate, Number.exact, Scientific.truncate_ofInt] at hi
    obtain ⟨s, hs⟩ := hwhole i hi
    exact hsome s hs
  | float x =>
    cases x with
    | finite negative rank =>
      by_cases hw : (Binary64.exactAt negative rank).isWhole = true
      · obtain ⟨s, hs⟩ := hwhole _ (Number.natAbs_truncate_binary negative rank)
        refine hsome s ?_
        simp only [plainText?, hw, if_true]
        exact hs
      · refine hsome (Binary64.text (.finite negative rank)) ?_
        simp [plainText?, hw]
    | _ => exact hsome _ rfl
  | decimal d => exact hsome _ rfl
  | text s => exact hsome s rfl
  | _ => exact nomatch hv

end Value

end FieldRules
