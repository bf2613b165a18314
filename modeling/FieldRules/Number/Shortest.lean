import FieldRules.Number.Binary64

/-!
# The shortest decimal of a binary number

A binary number is written with the fewest digits that still read back as the same number, and with
the nearest such digits when there are several. On the grid of `n`-digit decimals the only
candidates are the value's two neighbours: if any grid point reads back, so does a neighbour. So
the search tries the grids of 1, 2, … 17 digits and takes the first with a hit; seventeen digits
always suffice.

What the digits are and how they are laid out are separate questions. The layout is a record.
-/

set_option autoImplicit false

namespace FieldRules.Binary64

/-! ## Digits -/

/-- The comparison of the fraction `num / den` with `10 ^ k`, as "at least". -/
def atLeastPower (num den : Nat) (k : Int) : Bool :=
  if 0 ≤ k then den * tenTo k.toNat ≤ num else den ≤ num * tenTo (-k).toNat

/-- The exponent of the leading digit of a positive fraction: the `k` with `10 ^ k ≤ num / den < 10
^ (k + 1)`. The bit lengths give it up to two, and comparison settles it. -/
def leadingExponent (num den : Nat) : Int :=
  let guess : Int := (((num.log2 : Int) - den.log2 - 1) * 30103).fdiv 100000
  if atLeastPower num den (guess + 2) then guess + 2
  else if atLeastPower num den (guess + 1) then guess + 1
  else if atLeastPower num den guess then guess
  else guess - 1

/-- The whole number of times `10 ^ k` goes into the fraction, and whether the part left over is
more than half, exactly half or less. -/
def splitAt (num den : Nat) (k : Int) : Nat × Ordering :=
  let n := if 0 ≤ k then num else num * tenTo (-k).toNat
  let d := if 0 ≤ k then den * tenTo k.toNat else den
  (n / d, compare (2 * (n % d)) d)

/-- The decimal `digits · 10 ^ exponent` nearest to a positive fraction among its neighbours on the
grid `10 ^ exponent` that read back as `rank`, if there is one. -/
def readingBack? (rank num den : Nat) (exponent : Int) : Option Nat :=
  let (below, half) := splitAt num den exponent
  let reads (c : Nat) : Bool := ofDecimal false c exponent = ofRank false rank
  let (near, far) := match half with
    | .lt => (below, below + 1)
    | .gt => (below + 1, below)
    | .eq => if below % 2 = 0 then (below, below + 1) else (below + 1, below)
  if reads near then some near else if reads far then some far else none

/-- Tries `tries` grids of ever smaller steps, starting with `10 ^ exponent`. -/
def shortestFrom (rank num den : Nat) : (tries : Nat) → (exponent : Int) → Nat × Int
  | 0, exponent => ((splitAt num den exponent).1, exponent)
  | tries + 1, exponent =>
    match readingBack? rank num den exponent with
    | some c => (c, exponent)
    | none => shortestFrom rank num den tries (exponent - 1)

/-- The shortest decimal that reads back as the positive magnitude `rank`: digits as a whole number
and the exponent of its last one. -/
def shortest (rank : Nat) : Nat × Int :=
  let (num, den) := fractionOf rank
  shortestFrom rank num den 17 (leadingExponent num den)

/-! ## Layout -/

/-- How a number's digits are laid out: positional while the exponent of the leading digit lies
between `lowest` and `highest`, and otherwise with an exponent of at least `exponentDigits` digits.
-/
structure Layout where
  lowest : Int
  highest : Int
  exponentDigits : Nat

/-- Numbers from a ten-thousandth up to ten quadrillion are written without an exponent. -/
def layout : Layout := ⟨-4, 15, 2⟩

/-- A run of zeros. -/
def zeros (n : Nat) : List Char := List.replicate n '0'

/-- The decimal digits of a whole number. -/
def digitsOf (n : Nat) : List Char := Nat.toDigits 10 n

/-- Digits without their trailing zeros, one digit being kept. -/
def trimZeros (ds : List Char) : List Char :=
  match (ds.reverse.dropWhile (· == '0')).reverse with
  | [] => ['0']
  | kept => kept

/-- Digits laid out around a decimal point after the first `whole` of them, a bare whole number
getting a zero after its point. -/
def positional (ds : List Char) (lead : Int) : List Char :=
  if lead < 0 then '0' :: '.' :: zeros ((-lead).toNat - 1) ++ ds
  else
    let whole := lead.toNat + 1
    let before := ds.take whole ++ zeros (whole - ds.length)
    let after := ds.drop whole
    before ++ '.' :: (if after.isEmpty then ['0'] else after)

/-- Digits laid out with one before the point and an exponent. -/
def withExponent (style : Layout) (ds : List Char) (lead : Int) : List Char :=
  let mantissa := match ds with
    | [] => []
    | [d] => [d]
    | d :: rest => d :: '.' :: rest
  let magnitude := digitsOf lead.natAbs
  mantissa ++ 'e' :: (if lead < 0 then '-' else '+') ::
    zeros (style.exponentDigits - magnitude.length) ++ magnitude

/-- The text of a positive magnitude. -/
def magnitudeText (style : Layout) (rank : Nat) : List Char :=
  if rank = 0 then ['0', '.', '0']
  else
    let (c, exponent) := shortest rank
    let all := digitsOf c
    let lead : Int := exponent + (all.length - 1 : Nat)
    let ds := trimZeros all
    if style.lowest ≤ lead && lead ≤ style.highest then positional ds lead
    else withExponent style ds lead

/-- The text of a number: its shortest digits in the standard layout. -/
def text : Binary64 → String
  | nan => "nan"
  | infinity negative => if negative then "-inf" else "inf"
  | finite negative rank =>
    let body := magnitudeText layout rank.val
    String.ofList (if negative then '-' :: body else body)

example : text (ofDecimal false 1 (-1)) = "0.1" := by decide +kernel
example : text (ofDecimal true 1 16) = "-1e+16" := by decide +kernel
example : text (ofDecimal false 5 (-324)) = "5e-324" := by decide +kernel

end FieldRules.Binary64
