import FieldRules.Number

/-!
# Values

What a schema is made of, what is validated, and what an error is: one type of dynamic values. The
engine has to take whatever it is given, so there is no well-formedness condition here; even the
keys of a mapping are arbitrary values, in the order in which they were put in.
-/

set_option autoImplicit false

namespace FieldRules

/-- A dynamic value. -/
inductive Value where
  | null
  | bool (b : Bool)
  | int (i : Int)
  | float (x : Binary64)
  | decimal (d : Decimal)
  | text (s : String)
  | bytes (bs : List UInt8)
  | list (xs : List Value)
  | tuple (xs : List Value)
  | map (entries : List (Value × Value))
deriving Inhabited

/-- The entries of a mapping, in order. -/
abbrev Entries := List (Value × Value)

namespace Value

/-- The name of a value's kind, as it appears in messages. -/
def kindName : Value → String
  | null => "NoneType"
  | bool _ => "bool"
  | int _ => "int"
  | float _ => "float"
  | decimal _ => "Decimal"
  | text _ => "str"
  | bytes _ => "bytes"
  | list _ => "list"
  | tuple _ => "tuple"
  | map _ => "dict"

/-- The name of a value's kind together with where it is at home, as it appears in messages about
operations that values refuse. Only decimals are not at home everywhere. -/
def fullKindName : Value → String
  | decimal _ => "decimal.Decimal"
  | v => v.kindName

/-- Whether the value counts as not provided: absent, null or the empty text. -/
def isMissing : Value → Bool
  | null => true
  | text s => s.isEmpty
  | _ => false

/-- Whether the value is a text, a number or a boolean. -/
def isPrimitive : Value → Bool
  | text _ | int _ | bool _ | float _ | decimal _ => true
  | _ => false

/-- A text without surrounding blanks; other values as they are. -/
def trimmed : Value → Value
  | text s => text (Text.trim s)
  | v => v

/-- Whether the value counts as true: everything does but null, false, the zeros and the empties. -/
def truthy : Value → Bool
  | null => false
  | bool b => b
  | int i => i != 0
  | float x => !x.isZero
  | decimal (.finite _ coefficient _) => coefficient != 0
  | decimal _ => true
  | text s => !s.isEmpty
  | bytes bs => !bs.isEmpty
  | list xs => !xs.isEmpty
  | tuple xs => !xs.isEmpty
  | map entries => !entries.isEmpty

/-- The elements of a list or a tuple. -/
def items? : Value → Option (List Value)
  | list xs => some xs
  | tuple xs => some xs
  | _ => none

/-- The entries of a mapping. -/
def entries? : Value → Option Entries
  | map entries => some entries
  | _ => none

/-- The number that the value is or denotes, if it is finite. Booleans are not numbers. -/
def number? : Value → Option Number
  | int i => some (.whole i)
  | float x => Number.ofBinary64? x
  | decimal d => Number.ofDecimal? d
  | text s => Number.ofText? s
  | _ => none

/-- A number as a value of its kind. -/
def ofNumber : Number → Value
  | .whole i => int i
  | .binary negative rank => float (.finite negative rank)
  | .decimal negative coefficient exponent => decimal (.finite negative coefficient exponent)

theorem number?_ofNumber (n : Number) : (ofNumber n).number? = some n := by cases n <;> rfl

theorem isPrimitive_ofNumber (n : Number) : (ofNumber n).isPrimitive = true := by cases n <;> rfl

theorem isMissing_ofNumber (n : Number) : (ofNumber n).isMissing = false := by cases n <;> rfl

end Value

end FieldRules
