import FieldRules.Check.Effect
import FieldRules.Format.Date
import FieldRules.Format.Email
import FieldRules.Format.Url
import FieldRules.Pattern
import FieldRules.Text.Case
import FieldRules.Value.Entries

/-!
# Checks without parts

The checks that the built-in rules other than the structural ones become once their arguments have
been accepted. Apart from the four presence rules, all of them let a missing value pass.

String rules take any primitive value by its plain text and write that text. Number rules take
numbers and numerals and write the number. Format rules write nothing, and modifiers never fail.
-/

set_option autoImplicit false

namespace FieldRules

/-- A condition on a text. -/
inductive TextTest where
  | any
  | atMost (limit : Nat)
  | atLeast (limit : Nat)
  | between (low high : Nat)
  | exactly (length : Nat)
  | containing (pattern : Pattern)

/-- The code of the condition that a text violates. A match with a group that stops before it starts
is a fault. -/
def TextTest.violation? (test : TextTest) (s : String) : Except Fault (Option Code) :=
  match test with
  | any => .ok none
  | atMost limit => .ok (if limit < s.length then some .tooLong else none)
  | atLeast limit => .ok (if s.length < limit then some .tooShort else none)
  | between low high =>
    .ok (if s.length < low then some .tooShort
      else if high < s.length then some .tooLong
      else none)
  | exactly length =>
    .ok (if s.length < length then some .tooShort
      else if length < s.length then some .tooLong
      else none)
  | containing pattern =>
    match pattern.search? s with
    | none => .ok (some .wrongFormat)
    | some trace => if trace.isOrdered then .ok none else .error .crossedGroup

/-- A condition on a number. -/
inductive NumberTest where
  | any
  | positive (violated : Code)
  | atMost (limit : Number)
  | atLeast (limit : Number)
  | between (low high : Number)

/-- The code of the condition that a number violates. -/
def NumberTest.violation? (test : NumberTest) (n : Number) : Option Code :=
  match test with
  | any => none
  | positive violated => if n.compare (.whole 0) = .gt then none else some violated
  | atMost limit => if n.compare limit = .gt then some .tooHigh else none
  | atLeast limit => if n.compare limit = .lt then some .tooLow else none
  | between low high =>
    if n.compare low = .lt then some .tooLow
    else if n.compare high = .gt then some .tooHigh
    else none

/-- A format that a text may have. -/
inductive FormatTest where
  | email
  | url
  | isoDate
deriving DecidableEq, Repr

namespace FormatTest

/-- Whether a text has the format. -/
def accepts : FormatTest → String → Bool
  | email => Format.isEmail
  | url => Format.isUrl
  | isoDate => Format.isIsoDate

/-- The code of a text that does not have the format. -/
def code : FormatTest → Code
  | email => .wrongEmail
  | url => .wrongUrl
  | isoDate => .wrongDate

end FormatTest

/-- A change to a text. -/
inductive Modifier where
  | trim
  | lower
  | upper
  | without (chars : List Char)
  | only (chars : List Char)
deriving DecidableEq, Repr

/-- The changed text. -/
def Modifier.apply : Modifier → String → String
  | trim => Text.trim
  | lower => Text.toLower
  | upper => Text.toUpper
  | without chars => fun s => String.ofList (s.toList.filter fun c => !chars.contains c)
  | only chars => fun s => String.ofList (s.toList.filter fun c => chars.contains c)

/-- A check that holds no other checks. -/
inductive Leaf where
  | required
  | notEmpty
  | notEmptyList
  | anyObject
  | text (test : TextTest)
  | eq (allowed : Value) (expected : String)
  | oneOf (options : List (String × Value))
  | number (nonNumber : Code) (whole : Bool) (test : NumberTest)
  | format (test : FormatTest)
  | equalTo (field : String)
  | modify (modifier : Modifier)
  | default (value : Value)

namespace Leaf

/-- Applies a check of plain texts to a value: a missing one passes, one that is not primitive has
the wrong format. -/
def onText (v : Value) (check : String → Except Fault Effect) : Except Fault Effect :=
  if v.isMissing then .ok .pass
  else if !v.isPrimitive then .ok (.fail .formatError)
  else v.plainText >>= check

/-- The effect of checking a text against a condition. -/
def checkText (test : TextTest) (s : String) : Except Fault Effect := do
  match ← test.violation? s with
  | some code => return .fail code
  | none => return .wrote (.text s)

/-- The effect of checking a value that should be a number. -/
def checkNumber (nonNumber : Code) (whole : Bool) (test : NumberTest) (v : Value) : Effect :=
  match v.number? with
  | none => .fail nonNumber
  | some n =>
    if whole && !n.isWhole then .fail nonNumber
    else
      let n := if whole then .whole n.truncate else n
      match test.violation? n with
      | some code => .fail code
      | none => .wrote (.ofNumber n)

/-- Runs the check on a value, `siblings` being the mapping that the value is part of. -/
def run (leaf : Leaf) (v : Value) (siblings : Entries) : Except Fault Effect :=
  match leaf with
  | required => .ok (if v.isMissing then .fail .required else .pass)
  | notEmpty =>
    .ok (match v with
      | .text s => if s.isEmpty then .fail .cannotBeEmpty else .pass
      | _ => .pass)
  | notEmptyList =>
    .ok (if v.isMissing then .fail .cannotBeEmpty
      else match v.items? with
        | none => .fail .formatError
        | some [] => .fail .cannotBeEmpty
        | some _ => .pass)
  | anyObject =>
    .ok (if v.isMissing || v.entries?.isSome then .pass else .fail .formatError)
  | text test => onText v (checkText test)
  | eq allowed expected =>
    onText v fun s => .ok (if s = expected then .wrote allowed else .fail .notAllowedValue)
  | oneOf options =>
    onText v fun s => .ok (match options.lookup s with
      | some option => .wrote option
      | none => .fail .notAllowedValue)
  | number nonNumber whole test =>
    .ok (if v.isMissing then .pass
      else if !v.isPrimitive then .fail .formatError
      else checkNumber nonNumber whole test v)
  | format test => onText v fun s => .ok (if test.accepts s then .pass else .fail test.code)
  | equalTo field =>
    if v.isMissing then .ok .pass
    else if !v.isPrimitive then .ok (.fail .formatError)
    else do
      let same ← v.equal ((siblings.get? field).getD .null)
      return if same then .pass else .fail .fieldsNotEqual
  | modify modifier =>
    .ok (match v with
      | .text s => .wrote (.text (modifier.apply s))
      | _ => .pass)
  | default value => .ok (if v.isMissing then .wrote value else .pass)

end Leaf

end FieldRules
