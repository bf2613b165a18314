import FieldRules.Number.Scientific

/-!
# Binary floating point numbers

A finite magnitude is given by its *rank*: its place among the magnitudes in ascending order, zero
first. Ranks below `2 ^ 52`, which is `0x10000000000000`, are the multiples of the smallest
magnitude `2 ^ -1074`; from there on each block of so many ranks has twice the spacing of the block
before. Every rank is a magnitude and every magnitude has one rank, so equality of finite numbers of
one sign is equality of ranks, and rounding is a matter of finding the right rank.

The two zeros are different numbers here, as their texts differ; their exact values are equal.
-/

set_option autoImplicit false

namespace FieldRules

/-- A power of two. -/
def twoTo (k : Nat) : Nat := Nat.pow 2 k

/-- A binary floating point number of 64 bits; all the not-a-numbers count as one. -/
inductive Binary64 where
  | nan
  | infinity (negative : Bool)
  | finite (negative : Bool) (rank : Fin (2047 * 0x10000000000000))
deriving DecidableEq, Repr

namespace Binary64

/-- The exponent of the spacing at a rank, above that of the smallest magnitude. -/
def block (rank : Nat) : Nat := rank / 0x10000000000000 - 1

/-- The significand of a rank: its magnitude is `significandOf rank · 2 ^ (block rank - 1074)`. -/
def significandOf (rank : Nat) : Nat := rank - block rank * 0x10000000000000

/-- The value of a rank as a fraction. -/
def fractionOf (rank : Nat) : Nat × Nat :=
  let scale := block rank
  if 1074 ≤ scale then (significandOf rank * twoTo (scale - 1074), 1)
  else (significandOf rank, twoTo (1074 - scale))

/-- The sign as a factor. -/
def signed (negative : Bool) (n : Nat) : Int := if negative then -(n : Int) else n

/-- The exact value of a finite number. A binary fraction of `k` places has `k` decimal places. -/
def exactAt (negative : Bool) (rank : Nat) : Scientific :=
  let scale := block rank
  if 1074 ≤ scale then ⟨signed negative (significandOf rank * twoTo (scale - 1074)), 0⟩
  else
    let places := 1074 - scale
    ⟨signed negative (significandOf rank * Nat.pow 5 places), -(places : Int)⟩

/-! ## Rounding -/

/-- The whole number nearest to `num / den`, the even one of two. -/
def roundHalfEven (num den : Nat) : Nat :=
  let whole := num / den
  let twice := 2 * (num % den)
  if twice < den then whole
  else if den < twice then whole + 1
  else whole + whole % 2

/-- The rank nearest to the positive fraction `num / den`, which may lie past the last magnitude.
The spacing is chosen from the bit lengths: `2 ^ lead ≤ num / den < 2 ^ (lead + 2)` fixes the block
up to one, and the comparison settles it. -/
def rankOfFraction (num den : Nat) : Nat :=
  let lead : Int := (num.log2 : Int) - den.log2 - 1
  let reaches : Bool :=
    if 0 ≤ lead + 1 then den * twoTo (lead + 1).toNat ≤ num
    else den ≤ num * twoTo (-(lead + 1)).toNat
  let floorLog := if reaches then lead + 1 else lead
  let scale := (floorLog + 1022).toNat
  let steps :=
    if 1074 ≤ scale then roundHalfEven num (den * twoTo (scale - 1074))
    else roundHalfEven (num * twoTo (1074 - scale)) den
  scale * 0x10000000000000 + steps

/-- The number of a given sign and rank; ranks past the last magnitude are infinite. -/
def ofRank (negative : Bool) (rank : Nat) : Binary64 :=
  if h : rank < 2047 * 0x10000000000000 then finite negative ⟨rank, h⟩ else infinity negative

/-- The number nearest to `coefficient · 10 ^ exponent`. A power of ten past `10 ^ 309` is infinite
whatever multiplies it, and one that stays below half the smallest magnitude is zero. -/
def ofDecimal (negative : Bool) (coefficient : Nat) (exponent : Int) : Binary64 :=
  if coefficient = 0 then ofRank negative 0
  else if 309 < exponent then infinity negative
  else if 0 ≤ exponent then ofRank negative (rankOfFraction (coefficient * tenTo exponent.toNat) 1)
  else
    let places := (-exponent).toNat
    if coefficient.log2 + 1076 ≤ 3 * places then ofRank negative 0
    else ofRank negative (rankOfFraction coefficient (tenTo places))

/-- Whether the number is one of the two zeros. -/
def isZero : Binary64 → Bool
  | finite _ rank => rank.val = 0
  | _ => false

example : ofDecimal false 1 0 = ofRank false (1023 * 0x10000000000000) := by decide +kernel
example : ofDecimal false 5 (-324) = ofRank false 1 := by decide +kernel
example : ofDecimal false 2 (-324) = ofRank false 0 := by decide +kernel
example : ofDecimal false 18 307 = infinity false := by decide +kernel

end Binary64

end FieldRules
