import FieldRules.Number.Decimal
import FieldRules.Number.Shortest

/-!
# Numbers

A number is a whole number, a finite binary float or a finite decimal. The three kinds are kept
apart because each has its own text, and compared through their exact values, so that no bound is
ever missed by rounding.
-/

set_option autoImplicit false

namespace FieldRules

/-- A finite number of one of the three kinds. -/
inductive Number where
  | whole (i : Int)
  | binary (negative : Bool) (rank : Fin (2047 * 0x10000000000000))
  | decimal (negative : Bool) (coefficient : Nat) (exponent : Int)
deriving DecidableEq, Repr

namespace Number

/-- The exact value. -/
def exact : Number → Scientific
  | whole i => .ofInt i
  | binary negative rank => Binary64.exactAt negative rank
  | decimal negative coefficient exponent => ⟨Binary64.signed negative coefficient, exponent⟩

/-- A binary float as a number, if it is finite. -/
def ofBinary64? : Binary64 → Option Number
  | .finite negative rank => some (binary negative rank)
  | _ => none

/-- A decimal as a number, if it is finite. -/
def ofDecimal? : Decimal → Option Number
  | .finite negative coefficient exponent => some (decimal negative coefficient exponent)
  | _ => none

/-- The order of the exact values. -/
def compare (a b : Number) : Ordering := a.exact.compare b.exact

/-- Whether the exact value is whole. -/
def isWhole (a : Number) : Bool := a.exact.isWhole

/-- The whole part of the exact value. -/
def truncate (a : Number) : Int := a.exact.truncate

/-- The text of a number in the manner of its kind, if it has one. -/
def text? : Number → Option String
  | whole i => Numeral.wholeText? i
  | binary negative rank => some (Binary64.text (.finite negative rank))
  | decimal negative coefficient exponent =>
    some (Decimal.text (.finite negative coefficient exponent))

/-- The number a text denotes: the whole number if it is a whole numeral, and else the binary float
nearest to what it denotes. -/
def ofText? (s : String) : Option Number :=
  let cs := Text.trimList s.toList
  match Numeral.readWhole? cs with
  | some i => some (whole i)
  | none => (Numeral.readReal? cs).bind ofBinary64?

end Number

end FieldRules
