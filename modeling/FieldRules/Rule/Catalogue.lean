import FieldRules.Rule.Arguments
import FieldRules.Rule.Builtin
import FieldRules.Rule.Recipe

/-!
# The recipes of the built-in rules

What each rule of the catalogue makes of its arguments. The structural rules ask for the schemas and
specs among their arguments; all others only look at them.
-/

set_option autoImplicit false

namespace FieldRules.Builtin

/-- The recipe for a check whose arguments may be refused. -/
def leafOf (leaf : Except Fault Leaf) : Recipe := .ofExcept (leaf.map Recipe.leaf)

/-- The single spec that the arguments of `list_of` mean: either the only one, or the list of them
all. -/
def elementSpec? : List Value → Option Value
  | [] => none
  | [spec] => some spec
  | specs => some (.list specs)

/-- The options that the arguments of `one_of` mean: either they themselves, or the items of the
only one. -/
def optionArgs : List Value → List Value
  | [v] => v.items?.getD [v]
  | vs => vs

/-- Asks for the schemas of variants in order, each under the plain text of its key. -/
def onVariants : Entries → List (String × CompiledSchema) →
    (List (String × CompiledSchema) → Recipe) → Recipe
  | [], done, next => next done
  | (key, schema) :: rest, done, next =>
    .ofExcept (key.plainText.map fun name =>
      .onSchema schema fun compiled => onVariants rest (putNamed name compiled done) next)

/-- Reads the selector and asks for the schemas of the variants. -/
def onSelector (selector schemas : Value)
    (next : String → List (String × CompiledSchema) → Recipe) :
    Recipe :=
  .ofExcept ((Arguments.fullText selector .noSelector).map fun name =>
    match schemas with
    | .map (entry :: entries) => onVariants (entry :: entries) [] (next name)
    | _ => .refuse .noVariants)

/-- The objection to a number of arguments that the rule does not take. -/
def misuse (rule : Builtin) (count : Nat) : Recipe :=
  .fail (.fault (.badCall ((rule.signature.callObjection? rule.label count).getD "")))

/-- What a rule makes of its arguments. -/
def recipe (rule : Builtin) (args : List Value) : Recipe :=
  match rule, args with
  | required, [] => .leaf .required
  | notEmpty, [] => .leaf .notEmpty
  | notEmptyList, [] => .leaf .notEmptyList
  | anyObject, [] => .leaf .anyObject
  | string, [] => .leaf (.text .any)
  | eq, [allowed] =>
    if allowed.isPrimitive then leafOf (allowed.plainText.map (.eq allowed))
    else .refuse (.notPrimitive allowed.kindName)
  | oneOf, args => leafOf ((Arguments.options (optionArgs args)).map .oneOf)
  | maxLength, [n] => leafOf ((Arguments.length "max_length" n).map fun n => .text (.atMost n))
  | minLength, [n] => leafOf ((Arguments.length "min_length" n).map fun n => .text (.atLeast n))
  | lengthBetween, [low, high] =>
    leafOf ((Arguments.lengthBounds low high).map fun (l, h) => .text (.between l h))
  | lengthEqual, [n] => leafOf ((Arguments.length "length" n).map fun n => .text (.exactly n))
  | like, [source] =>
    leafOf ((Arguments.pattern source (.text "")).map fun p => .text (.containing p))
  | like, [source, flags] =>
    leafOf ((Arguments.pattern source flags).map fun p => .text (.containing p))
  | integer, [] => .leaf (.number .notInteger true .any)
  | positiveInteger, [] =>
    .leaf (.number .notPositiveInteger true (.positive .notPositiveInteger))
  | decimal, [] => .leaf (.number .notDecimal false .any)
  | positiveDecimal, [] =>
    .leaf (.number .notPositiveDecimal false (.positive .notPositiveDecimal))
  | maxNumber, [n] =>
    leafOf ((Arguments.number "max_number" n).map fun n => .number .notNumber false (.atMost n))
  | minNumber, [n] =>
    leafOf ((Arguments.number "min_number" n).map fun n => .number .notNumber false (.atLeast n))
  | numberBetween, [low, high] =>
    leafOf ((Arguments.numberBounds low high).map fun (l, h) =>
      .number .notNumber false (.between l h))
  | email, [] => .leaf (.format .email)
  | url, [] => .leaf (.format .url)
  | isoDate, [] => .leaf (.format .isoDate)
  | equalToField, [field] => leafOf ((Arguments.fullText field .noFieldName).map .equalTo)
  | nestedObject, [schema] => .onSchema schema fun compiled => .ready (.object compiled)
  | variableObject, [selector, schemas] =>
    onSelector selector schemas fun name variants => .ready (.variant name variants)
  | listOf, args =>
    match elementSpec? args with
    | none => .refuse .noRules
    | some spec => .onField spec fun chain => .ready (.each chain)
  | listOfObjects, [schema] => .onSchema schema fun compiled => .ready (.eachObject compiled)
  | listOfDifferentObjects, [selector, schemas] =>
    onSelector selector schemas fun name variants => .ready (.eachVariant name variants)
  | or, args =>
    if args.isEmpty then .refuse .noRuleSets
    else .onFields args fun chains => .ready (.firstOf chains)
  | trim, [] => .leaf (.modify .trim)
  | toLower, [] => .leaf (.modify .lower)
  | toUpper, [] => .leaf (.modify .upper)
  | remove, [chars] =>
    leafOf ((Arguments.fullText chars (.noCharacters "remove")).map fun s =>
      .modify (.without s.toList))
  | leaveOnly, [chars] =>
    leafOf ((Arguments.fullText chars (.noCharacters "leave_only")).map fun s =>
      .modify (.only s.toList))
  | default, [value] => .leaf (.default value)
  | rule, args => misuse rule args.length

end FieldRules.Builtin
