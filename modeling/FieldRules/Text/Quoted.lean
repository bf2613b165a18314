import FieldRules.Text.Printable

/-!
# Quoted text

How a text or a byte string is shown inside a message. The quote is a single one unless the text
holds single quotes and no double ones, so that most texts need no escape; backslash, quote and the
three common line controls get a short escape, and everything unprintable a numeric one, of the
least width that holds its code point.
-/

set_option autoImplicit false

namespace FieldRules.Text

/-- The lower-case hexadecimal digit of a number below sixteen. -/
def hexDigit (n : Nat) : Char := Nat.digitChar n

/-- The last `width` hexadecimal digits of `n`. -/
def hexDigits : (width : Nat) → (n : Nat) → List Char
  | 0, _ => []
  | width + 1, n => hexDigits width (n / 16) ++ [hexDigit (n % 16)]

/-- The quote that encloses a text. -/
def quoteMark (cs : List Char) : Char :=
  if cs.contains '\'' && !cs.contains '"' then '"' else '\''

/-- The numeric escape of a code point. -/
def numericEscape (n : Nat) : List Char :=
  if n < 0x100 then '\\' :: 'x' :: hexDigits 2 n
  else if n < 0x10000 then '\\' :: 'u' :: hexDigits 4 n
  else '\\' :: 'U' :: hexDigits 8 n

/-- How a character stands between quotes, `shown` telling whether it may stand as itself. -/
def escapeChar (mark : Char) (shown : Char → Bool) (c : Char) : List Char :=
  if c = mark || c = '\\' then ['\\', c]
  else if c = '\t' then ['\\', 't']
  else if c = '\n' then ['\\', 'n']
  else if c = '\r' then ['\\', 'r']
  else if shown c then [c]
  else numericEscape c.toNat

/-- A character list between quotes. -/
def quoteList (shown : Char → Bool) (cs : List Char) : List Char :=
  let mark := quoteMark cs
  mark :: cs.flatMap (escapeChar mark shown) ++ [mark]

/-- A text between quotes. -/
def quoted (s : String) : String := String.ofList (quoteList isPrintable s.toList)

/-- Whether a byte shown as a character may stand as itself. -/
def isPlainByte (c : Char) : Bool := ' ' ≤ c && c ≤ '~'

/-- A byte string between quotes, marked as one. -/
def quotedBytes (bs : List UInt8) : String :=
  String.ofList ('b' :: quoteList isPlainByte (bs.map fun b => Char.ofNat b.toNat))

example : quoted "it's" = "\"it's\"" := by decide +kernel
example : quoted "a\nb" = "'a\\nb'" := by decide +kernel

end FieldRules.Text
