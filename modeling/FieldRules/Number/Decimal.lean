import FieldRules.Number.Numeral

/-!
# Decimals

A decimal keeps the precision it was written with: `1.5` and `1.50` are different decimals of equal
value. Besides the finite ones there are two infinities and the not-a-numbers, which carry a sign
and a payload of digits and are *quiet* or *signalling*; a signalling one refuses to be compared
with a number.
-/

set_option autoImplicit false

namespace FieldRules

/-- A decimal floating point number. -/
inductive Decimal where
  | finite (negative : Bool) (coefficient : Nat) (exponent : Int)
  | infinity (negative : Bool)
  | nan (negative : Bool) (signalling : Bool) (payload : Nat)
deriving DecidableEq, Repr

namespace Decimal

/-! ## Text -/

/-- The text of a finite magnitude: positional while the exponent is not positive and at most five
zeros follow the point, and otherwise with an exponent. -/
def magnitudeText (coefficient : Nat) (exponent : Int) : List Char :=
  let ds := Nat.toDigits 10 coefficient
  let lead : Int := exponent + (ds.length - 1 : Nat)
  if exponent ≤ 0 && -6 ≤ lead then
    let places := (-exponent).toNat
    if places = 0 then ds
    else
      let padded := List.replicate (places + 1 - ds.length) '0' ++ ds
      padded.take (padded.length - places) ++ '.' :: padded.drop (padded.length - places)
  else
    let mantissa := match ds with
      | d :: rest => if rest.isEmpty then [d] else d :: '.' :: rest
      | [] => []
    mantissa ++ 'E' :: (if lead < 0 then '-' else '+') :: Nat.toDigits 10 lead.natAbs

/-- The text of a decimal, which shows its precision. -/
def text (d : Decimal) : String :=
  let (negative, body) := match d with
    | finite negative coefficient exponent => (negative, magnitudeText coefficient exponent)
    | infinity negative => (negative, "Infinity".toList)
    | nan negative signalling payload =>
      let word := if signalling then "sNaN" else "NaN"
      (negative, word.toList ++ (if payload = 0 then [] else Nat.toDigits 10 payload))
  String.ofList (if negative then '-' :: body else body)

/-- The not-a-number with the given payload digits. -/
def readNan? (negative signalling : Bool) (digits : List Char) : Option Decimal :=
  if digits.all Text.isAsciiDigit then some (nan negative signalling (Numeral.asciiValue digits))
  else none

/-- The decimal that a text denotes. -/
def ofText? (s : String) : Option Decimal :=
  let (negative, body) := Numeral.splitSign (Text.trimList s.toList)
  match body.map Char.toLower with
  | 'i' :: 'n' :: 'f' :: rest =>
    if rest = [] || rest = "inity".toList then some (infinity negative) else none
  | 'n' :: 'a' :: 'n' :: digits => readNan? negative false digits
  | 's' :: 'n' :: 'a' :: 'n' :: digits => readNan? negative true digits
  | _ => (Numeral.readMagnitude? body).map fun (c, e) => finite negative c e

example : text (finite false 150 (-2)) = "1.50" := by decide +kernel
example : text (finite true 1 2) = "-1E+2" := by decide +kernel
example : text (finite false 0 (-7)) = "0E-7" := by decide +kernel
example : ofText? "sNaN12" = some (nan false true 12) := by decide +kernel

end Decimal

end FieldRules
