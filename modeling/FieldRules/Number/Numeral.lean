import FieldRules.Number.Binary64
import FieldRules.Text.Blank
import FieldRules.Text.Digit

/-!
# Numerals

The texts that denote numbers. A whole numeral is a sign and digits; a real numeral may have a
fraction and an exponent, or be one of the words for infinity and not-a-number. Digits of every
script count, and single underscores may group them.

Whole numbers are read and written with at most `digitLimit` digits. Beyond that a number still
*exists*, it just has no decimal text: reading such a numeral as a whole number fails, and so does
writing one, which is why the texts of numbers are optional.
-/

set_option autoImplicit false

namespace FieldRules.Numeral

open FieldRules.Text

/-- The most digits that the text of a whole number may have. -/
def digitLimit : Nat := 4300

/-- The least magnitude without a text. -/
def textless : Nat := tenTo digitLimit

/-- The decimal text of a whole number, if it is short enough to have one. -/
def wholeText? (i : Int) : Option String :=
  if i.natAbs < textless then
    let ds := Nat.toDigits 10 i.natAbs
    some (String.ofList (if i < 0 then '-' :: ds else ds))
  else none

/-! ## Whole numerals -/

/-- The digits of a numeral, with single underscores allowed between two of them; `afterDigit` tells
whether one has just been read. -/
def groupedDigits : (afterDigit : Bool) → List Char → Option (List Nat)
  | afterDigit, [] => if afterDigit then some [] else none
  | afterDigit, c :: rest =>
    if c = '_' then if afterDigit then groupedDigits false rest else none
    else match digitValue? c with
      | some d => (groupedDigits true rest).map (d :: ·)
      | none => none

/-- The number with the given decimal digits. -/
def ofDigits (ds : List Nat) : Nat := ds.foldl (fun n d => 10 * n + d) 0

/-- A leading sign, if there is one, and the rest. -/
def splitSign : List Char → Bool × List Char
  | '-' :: rest => (true, rest)
  | '+' :: rest => (false, rest)
  | cs => (false, cs)

/-- The whole number a numeral without surrounding blanks denotes. -/
def readWhole? (cs : List Char) : Option Int :=
  let (negative, body) := splitSign cs
  match groupedDigits false body with
  | some ds =>
    if ds.length ≤ digitLimit then some (Binary64.signed negative (ofDigits ds)) else none
  | none => none

/-! ## Real numerals -/

/-- A numeral in ASCII digits: each digit of another script is replaced by the ASCII one. -/
def asciiDigits (cs : List Char) : List Char :=
  cs.map fun c => match digitValue? c with
    | some d => Nat.digitChar d
    | none => c

/-- The characters without the underscores, each of which must stand between two digits. -/
def dropGrouping : (afterDigit : Bool) → List Char → Option (List Char)
  | _, [] => some []
  | afterDigit, '_' :: rest =>
    match rest with
    | d :: _ => if afterDigit && isAsciiDigit d then dropGrouping false rest else none
    | [] => none
  | _, c :: rest => (dropGrouping (isAsciiDigit c) rest).map (c :: ·)

/-- The value of ASCII digits. -/
def asciiValue (cs : List Char) : Nat := ofDigits (cs.map fun c => c.toNat - '0'.toNat)

/-- The exponent part of a real numeral: nothing, or a mark, a sign and digits. -/
def readExponent? : List Char → Option Int
  | [] => some 0
  | mark :: rest =>
    if mark = 'e' || mark = 'E' then
      let (negative, ds) := splitSign rest
      if !ds.isEmpty && ds.all isAsciiDigit then some (Binary64.signed negative (asciiValue ds))
      else none
    else none

/-- The unsigned number written as digits, a point and an exponent. -/
def readMagnitude? (cs : List Char) : Option (Nat × Int) :=
  let whole := cs.takeWhile isAsciiDigit
  let rest := cs.dropWhile isAsciiDigit
  let (fraction, tail) := match rest with
    | '.' :: after => (after.takeWhile isAsciiDigit, after.dropWhile isAsciiDigit)
    | _ => ([], rest)
  if whole.isEmpty && fraction.isEmpty then none
  else
    (readExponent? tail).map fun e =>
      (asciiValue (whole ++ fraction), e - (fraction.length : Int))

/-- The words for the numbers that have no digits. -/
def readWord? (negative : Bool) (cs : List Char) : Option Binary64 :=
  match String.ofList (cs.map Char.toLower) with
  | "inf" => some (.infinity negative)
  | "infinity" => some (.infinity negative)
  | "nan" => some .nan
  | _ => none

/-- The binary number a numeral without surrounding blanks denotes, rounded to nearest. -/
def readReal? (cs : List Char) : Option Binary64 :=
  match dropGrouping false (asciiDigits cs) with
  | none => none
  | some plain =>
    let (negative, body) := splitSign plain
    match readWord? negative body with
    | some x => some x
    | none => (readMagnitude? body).map fun (c, e) => Binary64.ofDecimal negative c e

example : readWhole? "-1_000".toList = some (-1000) := by decide +kernel
example : readWhole? "1__0".toList = none := by decide +kernel
example : readReal? "1_0.5e1".toList = some (Binary64.ofDecimal false 105 0) := by decide +kernel
example : readReal? "1_.5".toList = none := by decide +kernel

end FieldRules.Numeral
