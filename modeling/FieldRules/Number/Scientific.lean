/-!
# Exact numbers in scientific form

Whole numbers, binary floats and decimals all denote `significand · 10 ^ exponent` for some pair of
integers: a binary fraction of `k` places is a decimal fraction of `k` places. So every comparison
between numbers of different kinds is made here, exactly, and no number is ever rounded to be
compared.

A decimal's exponent can be far larger than any power of ten worth computing. Each operation
therefore first looks whether the sizes alone decide (`10 ^ k` exceeds every number of at most `k`
bits), and only otherwise raises ten to a power, which is then at most the bit length of a
significand.
-/

set_option autoImplicit false

namespace FieldRules

/-- A power of ten. -/
def tenTo (k : Nat) : Nat := Nat.pow 10 k

/-- The number `significand · 10 ^ exponent`. -/
structure Scientific where
  significand : Int
  exponent : Int
deriving DecidableEq, Repr, Inhabited

namespace Scientific

/-- A whole number. -/
def ofInt (i : Int) : Scientific := ⟨i, 0⟩

/-- Compares `x` with `y · 10 ^ k`. -/
def compareScaled (x y : Int) (k : Nat) : Ordering :=
  if y = 0 then Ord.compare x 0
  else if x.natAbs.log2 < k then Ord.compare 0 y
  else Ord.compare x (y * tenTo k)

/-- The order of two exact numbers. -/
def compare (a b : Scientific) : Ordering :=
  if a.exponent ≤ b.exponent then
    compareScaled a.significand b.significand (b.exponent - a.exponent).toNat
  else
    (compareScaled b.significand a.significand (a.exponent - b.exponent).toNat).swap

/-- Whether the number is whole. -/
def isWhole (a : Scientific) : Bool :=
  if 0 ≤ a.exponent || a.significand = 0 then true
  else
    let places := (-a.exponent).toNat
    if a.significand.natAbs.log2 < places then false
    else a.significand % tenTo places = 0

/-- The whole part, towards zero. -/
def truncate (a : Scientific) : Int :=
  if 0 ≤ a.exponent then a.significand * tenTo a.exponent.toNat
  else
    let places := (-a.exponent).toNat
    if a.significand.natAbs.log2 < places then 0
    else a.significand.tdiv (tenTo places)

theorem isWhole_ofInt (i : Int) : isWhole (ofInt i) = true := by simp [isWhole, ofInt]

theorem truncate_ofInt (i : Int) : truncate (ofInt i) = i := by simp [truncate, ofInt, tenTo]

end Scientific

end FieldRules
