import FieldRules.Alias
import FieldRules.Rule.Catalogue

/-!
# Registries

A registry maps rule names to builders, in the order in which the names were first registered. A
builder is a built-in rule, an alias or a custom one; all of them are used through the same three
functions, so the rest of the engine cannot tell them apart.
-/

set_option autoImplicit false

namespace FieldRules

/-- A rule that is not built in: a label, the arguments it takes if that can be told, and what it
makes of them. -/
structure CustomRule where
  label : String
  signature : Option Signature
  recipe : List Value → Recipe

/-- What makes a check of a rule's arguments. -/
inductive Builder where
  | builtin (rule : Builtin)
  | aliased (definition : AliasDefinition)
  | custom (rule : CustomRule)

namespace Builder

/-- The label of a builder. -/
def label : Builder → String
  | builtin rule => rule.label
  | aliased definition => definition.name
  | custom rule => rule.label

/-- The arguments that a builder takes, if that can be told. -/
def signature : Builder → Option Signature
  | builtin rule => some rule.signature
  | aliased _ => some {}
  | custom rule => rule.signature

/-- What a builder makes of its arguments. An alias asks for the chain of its rules. -/
def recipe : Builder → List Value → Recipe
  | builtin rule, args => rule.recipe args
  | aliased definition, [] =>
    .onField definition.rules fun chain => .ready (.aliased definition.error chain)
  | aliased _, args =>
    .fail (.fault (.badCall
      (((({} : Signature).callObjection? "alias_builder.<locals>.build") args.length).getD "")))
  | custom rule, args => rule.recipe args

end Builder

/-- A mapping of rule names to builders. -/
structure Registry where
  name : String := "instance"
  builders : List (String × Builder) := []

namespace Registry

/-- The builder registered under a name. -/
def find? (r : Registry) (name : String) : Option Builder := r.builders.lookup name

/-- Whether a name is registered. -/
def has (r : Registry) (name : String) : Bool := (r.find? name).isSome

/-- The number of names. -/
def size (r : Registry) : Nat := r.builders.length

/-- The names in the order of their registration. -/
def keys (r : Registry) : List String := r.builders.map (·.1)

/-- The names in alphabetical order. -/
def names (r : Registry) : List String := r.keys.mergeSort fun a b => a ≤ b

/-- Registers a builder, in the place of an earlier one of the same name. -/
def put (r : Registry) (name : String) (builder : Builder) : Registry :=
  { r with builders := putNamed name builder r.builders }

/-- The same builders under another registry name. -/
def copy (r : Registry) (name : String := "instance") : Registry := { r with name }

/-- The builder under a name, or the defect that there is none. -/
def lookup (r : Registry) (name : String) : Except Failure Builder :=
  match r.find? name with
  | some builder => .ok builder
  | none => .error (.defect (Defect.unknownRule name r.keys r.name))

/-- The registry with the built-in rules. -/
def ofBuiltins : Registry :=
  { name := "default", builders := Builtin.all.map fun rule => (rule.name, .builtin rule) }

/-- The name that a registration is for, or the defect that it is not possible: the name has to be a
text with something in it, and what is registered has to be a builder. -/
def checkEntry (r : Registry) (name : Value) (builder : Option Builder) :
    Except Failure (String × Builder) :=
  let bad (reason : String) : Except Failure (String × Builder) :=
    .error (.ofDefect (Defect.invalidRule name reason r.name))
  match name with
  | .text s =>
    if s.isEmpty then bad "rule name must be a non-empty string"
    else match builder with
      | some b => .ok (s, b)
      | none => bad "builder must be callable"
  | _ => bad "rule name must be a non-empty string"

/-- Something that is registered under a name. Neither need be fit for it: the name may be any
value, and what comes with it may be no builder at all. -/
abbrev Entry := Value × Option Builder

/-- What registering entries comes to: the registry with the entries before the first unfit one, the
names of those with whether they had a builder before, and why the unfit one was refused. -/
structure Registered where
  registry : Registry
  names : List (String × Bool) := []
  failure : Option Failure := none

/-- Registers entries in order, up to the first unfit one. -/
def register (r : Registry) : List Entry → Registered
  | [] => { registry := r }
  | (name, builder) :: rest =>
    match r.checkEntry name builder with
    | .error failure => { registry := r, failure := some failure }
    | .ok (name, builder) =>
      let others := (r.put name builder).register rest
      { others with names := (name, r.has name) :: others.names }

/-- Entries with one more: in the place of the one with the same name if there is one, else at the
end. -/
def putEntry (entries : List Entry) (entry : Entry) : List Entry :=
  match entries with
  | [] => [entry]
  | first :: rest =>
    if Value.sameKey first.1 entry.1 then (first.1, entry.2) :: rest
    else first :: putEntry rest entry

/-- Entries with others put over them. -/
def overlay (entries others : List Entry) : List Entry := others.foldl putEntry entries

/-- The names that are no built-in rules, in alphabetical order. -/
def extraNames (r : Registry) : List String :=
  r.names.filter fun name => (Builtin.ofName? name).isNone

/-- The names of the built-in rules that are not registered, in alphabetical order. -/
def missingNames (r : Registry) : List String :=
  ((Builtin.all.map Builtin.name).filter fun name => !r.has name).mergeSort fun a b => a ≤ b

/-- The builder under a name that may be any value. Only texts are names. -/
def lookupValue (r : Registry) (name : Value) : Except Failure Builder :=
  match name with
  | .text s => r.lookup s
  | _ => match name.display with
    | .ok s => .error (.defect (Defect.unknownRule s r.keys r.name))
    | .error f => .error (.fault f)

/-- The builder under a name that may be any value, if there is one. What cannot be a key cannot be
asked for. -/
def getValue? (r : Registry) (name : Value) : Except Failure (Option Builder) :=
  match name with
  | .text s => .ok (r.find? s)
  | _ => match name.checkKey with
    | .ok _ => .ok none
    | .error f => .error (.fault f)

/-- A registry as it is shown. -/
def shown (r : Registry) : String :=
  "RuleRegistry(name=" ++ Text.quoted r.name ++ ", rules=" ++ toString r.size ++ ")"

theorem find?_put (r : Registry) (name other : String) (builder : Builder) :
    (r.put name builder).find? other = if other = name then some builder else r.find? other :=
  lookup_putNamed name other builder r.builders

end Registry

end FieldRules
