import FieldRules.Rule.Signature

/-!
# The built-in rules

The catalogue of rules that every default registry starts with, in the order in which it lists them.
Nothing here is special to the engine: a custom rule registered under the same name takes the place
of the built-in one.
-/

set_option autoImplicit false

namespace FieldRules

/-- A built-in rule. -/
inductive Builtin where
  | required
  | notEmpty
  | notEmptyList
  | anyObject
  | string
  | eq
  | oneOf
  | maxLength
  | minLength
  | lengthBetween
  | lengthEqual
  | like
  | integer
  | positiveInteger
  | decimal
  | positiveDecimal
  | maxNumber
  | minNumber
  | numberBetween
  | email
  | url
  | isoDate
  | equalToField
  | nestedObject
  | variableObject
  | listOf
  | listOfObjects
  | listOfDifferentObjects
  | or
  | trim
  | toLower
  | toUpper
  | remove
  | leaveOnly
  | default
deriving DecidableEq, Repr

namespace Builtin

/-- The rules in catalogue order. -/
def all : List Builtin :=
  [required, notEmpty, notEmptyList, anyObject, string, eq, oneOf, maxLength, minLength,
    lengthBetween, lengthEqual, like, integer, positiveInteger, decimal, positiveDecimal, maxNumber,
    minNumber, numberBetween, email, url, isoDate, equalToField, nestedObject, variableObject,
    listOf, listOfObjects, listOfDifferentObjects, or, trim, toLower, toUpper, remove, leaveOnly,
    default]

/-- The name under which a rule is registered. -/
def name : Builtin → String
  | required => "required"
  | notEmpty => "not_empty"
  | notEmptyList => "not_empty_list"
  | anyObject => "any_object"
  | string => "string"
  | eq => "eq"
  | oneOf => "one_of"
  | maxLength => "max_length"
  | minLength => "min_length"
  | lengthBetween => "length_between"
  | lengthEqual => "length_equal"
  | like => "like"
  | integer => "integer"
  | positiveInteger => "positive_integer"
  | decimal => "decimal"
  | positiveDecimal => "positive_decimal"
  | maxNumber => "max_number"
  | minNumber => "min_number"
  | numberBetween => "number_between"
  | email => "email"
  | url => "url"
  | isoDate => "iso_date"
  | equalToField => "equal_to_field"
  | nestedObject => "nested_object"
  | variableObject => "variable_object"
  | listOf => "list_of"
  | listOfObjects => "list_of_objects"
  | listOfDifferentObjects => "list_of_different_objects"
  | or => "or"
  | trim => "trim"
  | toLower => "to_lc"
  | toUpper => "to_uc"
  | remove => "remove"
  | leaveOnly => "leave_only"
  | default => "default"

/-- The label of a rule's builder, which is its name but for one that is a reserved word. -/
def label (rule : Builtin) : String := if rule = or then "or_" else rule.name

/-- The arguments that a rule takes. -/
def signature : Builtin → Signature
  | eq => { required := ["allowed"] }
  | oneOf => { variadic := true }
  | maxLength | minLength | lengthEqual => { required := ["length"] }
  | lengthBetween => { required := ["min_len", "max_len"] }
  | like => { required := ["pattern"], optional := 1 }
  | maxNumber => { required := ["maximum"] }
  | minNumber => { required := ["minimum"] }
  | numberBetween => { required := ["minimum", "maximum"] }
  | equalToField => { required := ["field"] }
  | nestedObject | listOfObjects => { required := ["schema"] }
  | variableObject | listOfDifferentObjects => { required := ["selector_field", "schemas"] }
  | listOf | or => { variadic := true }
  | remove | leaveOnly => { required := ["chars"] }
  | default => { required := ["value"] }
  | _ => {}

/-- The rule with a name. -/
def ofName? (name : String) : Option Builtin := all.find? fun rule => rule.name == name

theorem mem_all (rule : Builtin) : rule ∈ all := by cases rule <;> decide

theorem ofName?_name (rule : Builtin) : ofName? rule.name = some rule := by
  cases rule <;> decide +kernel

theorem name_injective {a b : Builtin} (h : a.name = b.name) : a = b := by
  have := ofName?_name a
  rw [h, ofName?_name] at this
  exact (Option.some.inj this).symm

end Builtin

end FieldRules
