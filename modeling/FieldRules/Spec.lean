import FieldRules.Value.Shown

/-!
# Rule specs

A field's rule spec is written in one of several short forms:

* a name, for a rule without arguments;
* a mapping with one entry, from a name to the arguments. A list is the list of arguments, so a list
  that is itself an argument is wrapped once more; anything else is a single argument;
* a list of such items, in the order in which the rules are applied.

All of them mean a list of invocations. Nothing else is a spec, and what is wrong with it is said of
the part that is wrong.
-/

set_option autoImplicit false

namespace FieldRules

/-- A rule's name and its arguments. -/
structure Invocation where
  name : String
  args : List Value := []
deriving Inhabited

/-- What is wrong with a spec. -/
inductive SpecProblem where
  | emptyList
  | emptyName
  | severalNames (count : Nat)
  | badName
  | nestedList
  | unsupported (kindName : String)
deriving DecidableEq, Repr

/-- The wording of a problem. -/
def SpecProblem.message : SpecProblem → String
  | emptyList => "rule list is empty"
  | emptyName => "rule name is empty"
  | severalNames count => "expected exactly one rule name, got " ++ toString count ++ " keys"
  | badName => "rule name must be a non-empty string"
  | nestedList => "nested rule lists are not allowed"
  | unsupported kindName => "unsupported type " ++ kindName

/-- A part of a spec that is wrong, and how. -/
structure BadSpec where
  part : Value
  problem : SpecProblem

namespace Invocation

/-- The invocation that a single item means. -/
def ofItem (item : Value) : Except BadSpec Invocation :=
  match item with
  | .text name => if name.isEmpty then .error ⟨item, .emptyName⟩ else .ok ⟨name, []⟩
  | .map [(.text name, value)] =>
    if name.isEmpty then .error ⟨item, .badName⟩ else .ok ⟨name, (value.items?).getD [value]⟩
  | .map [_] => .error ⟨item, .badName⟩
  | .map entries => .error ⟨item, .severalNames entries.length⟩
  | _ => .error ⟨item, .unsupported item.kindName⟩

/-- The invocation that an item of a list means. -/
def ofListItem (item : Value) : Except BadSpec Invocation :=
  match item.items? with
  | some _ => .error ⟨item, .nestedList⟩
  | none => ofItem item

/-- The invocations that the items of a list mean, up to the first bad one. -/
def ofItems : List Value → Except BadSpec (List Invocation)
  | [] => .ok []
  | item :: rest => do
    let invocation ← ofListItem item
    let others ← ofItems rest
    return invocation :: others

/-- The invocations that a spec means. -/
def ofSpec (spec : Value) : Except BadSpec (List Invocation) :=
  match spec.items? with
  | some [] => .error ⟨spec, .emptyList⟩
  | some items => ofItems items
  | none => (ofItem spec).map fun invocation => [invocation]

/-- The text of an invocation, with its arguments in parentheses if it has any. -/
def text? (invocation : Invocation) : Option String :=
  if invocation.args.isEmpty then some invocation.name
  else do
    let parts ← Value.itemsShown? invocation.args
    some (invocation.name ++ "(" ++ Value.commaSeparated parts ++ ")")

end Invocation

end FieldRules
