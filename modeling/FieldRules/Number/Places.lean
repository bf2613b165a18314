import FieldRules.Number.Shortest

/-!
# Binary numbers to a number of places

A magnitude is written with a fixed number of places after the point, with a number of digits and an
exponent, or in whichever of the two ways suits its size. It is rounded once, from its exact value,
to the nearest number with so many places, and to the even one of two.

No magnitude has more than `lastPlace` places or `lastDigit` digits before only zeros follow, so
that no more of them are ever computed.
-/

set_option autoImplicit false

namespace FieldRules.Binary64

/-- The last place after the point in which a magnitude can have another digit than zero. -/
def lastPlace : Nat := 1074

/-- The most digits that a magnitude can have from its first one on. -/
def lastDigit : Nat := 1400

/-- How often `10 ^ k` goes into the fraction, rounded. -/
def roundAt (num den : Nat) (k : Int) : Nat :=
  if 0 ≤ k then roundHalfEven num (den * tenTo k.toNat)
  else roundHalfEven (num * tenTo (-k).toNat) den

/-- Digits before and after a point, which is left out if it would be the last character, unless it
is asked for. -/
def withPoint (point : Bool) (whole fraction : List Char) : List Char :=
  if fraction.isEmpty && !point then whole else whole ++ '.' :: fraction

/-- The text of a magnitude with so many places after the point. -/
def fixedText (point : Bool) (places rank : Nat) : List Char :=
  let (num, den) := fractionOf rank
  let kept := min places lastPlace
  let ds := digitsOf (roundAt num den (-(kept : Int)))
  let padded := zeros (kept + 1 - ds.length) ++ ds
  let whole := padded.length - kept
  withPoint point (padded.take whole) (padded.drop whole ++ zeros (places - kept))

/-- The first `count` digits of a magnitude, rounded, and the exponent of the first of them.
Rounding up may make one digit more, which is a zero. -/
def leadingDigits (count rank : Nat) : List Char × Int :=
  if rank = 0 then (zeros count, 0)
  else
    let (num, den) := fractionOf rank
    let kept := min count lastDigit
    let lead := leadingExponent num den
    let ds := digitsOf (roundAt num den (lead - (kept - 1 : Nat)))
    (ds.take kept ++ zeros (count - kept), if kept < ds.length then lead + 1 else lead)

/-- Digits with a point after the first and an exponent of two digits or more. -/
def exponentText (point : Bool) (ds : List Char) (lead : Int) : List Char :=
  let magnitude := digitsOf lead.natAbs
  withPoint point (ds.take 1) (ds.drop 1) ++
    'e' :: (if lead < 0 then '-' else '+') :: zeros (2 - magnitude.length) ++ magnitude

/-- The text of a magnitude with an exponent and so many places after the point. -/
def scientificText (point : Bool) (places rank : Nat) : List Char :=
  let (ds, lead) := leadingDigits (places + 1) rank
  exponentText point ds lead

/-- The text of a magnitude with at most so many digits, with an exponent only if it is less than a
ten-thousandth or has more digits before the point. Zeros at the end are left out unless the point
is asked for. -/
def generalText (point : Bool) (digits rank : Nat) : List Char :=
  let count := max digits 1
  let (all, lead) := leadingDigits count rank
  let ds := if point then all else trimZeros all
  if lead < -4 || (count : Int) ≤ lead then exponentText point ds lead
  else if lead < 0 then withPoint point ['0'] (zeros ((-lead).toNat - 1) ++ ds)
  else
    let whole := lead.toNat + 1
    withPoint point (ds.take whole ++ zeros (whole - ds.length)) (ds.drop whole)

/-- The rank nearest to a decimal, for the examples below. -/
private def exampleRank (coefficient : Nat) (exponent : Int) : Nat :=
  match ofDecimal false coefficient exponent with
  | finite _ rank => rank.val
  | _ => 0

example : String.ofList (fixedText false 2 (exampleRank 314159 (-5))) = "3.14" := by decide +kernel
example : String.ofList (fixedText false 0 (exampleRank 25 (-1))) = "2" := by decide +kernel
example : String.ofList (scientificText false 0 (exampleRank 95 0)) = "1e+02" := by decide +kernel
example : String.ofList (generalText true 6 (exampleRank 1 0)) = "1.00000" := by decide +kernel

end FieldRules.Binary64
