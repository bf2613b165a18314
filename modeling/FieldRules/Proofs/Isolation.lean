import FieldRules.Proofs.Session.Leaving

/-!
# Registries are their own

There are three kinds of registries: the default one, those that are made or copied, and those of
the validators. All that can happen to a registry is that an operation sets it up
(`Operation.origin?`) or registers builders in it (`Operation.registrations`), and neither is ever
seen in another registry (`Session.registryOf?_after`). So the contents of a registry can be read
off the run: where it was last set up, and what was registered in it from then on.

An operation that fails sets nothing up. A registration that fails has registered what stood before
the entry that it failed at, which is why `Operation.registrations` does not ask how an operation
ends.
-/

set_option autoImplicit false

namespace FieldRules.Session

variable {s : Store} {target : Target}

/-! ## What an operation does to a registry -/

/-- What the definition of an alias registers, if it can be parsed. -/
def aliasOf (definition : Value) : List (String × Builder) :=
  match AliasDefinition.parse definition with
  | .ok parsed => [(parsed.name, .aliased parsed)]
  | .error _ => []

/-- The builders that an operation registers in a registry that exists. -/
def Operation.registrations (target : Target) : Operation → List (String × Builder)
  | .register other entries => if other = target then Registry.accepted entries else []
  | .registerAlias other definition => if other = target then aliasOf definition else []
  | _ => []

/-- A definition that cannot be parsed registers nothing. -/
theorem registrations_registerAlias_of_error {definition : Value} {failure : Failure}
    (h : AliasDefinition.parse definition = .error failure) (other target : Target) :
    (Operation.registerAlias other definition).registrations target = [] := by
  simp only [Operation.registrations, aliasOf, h, ite_self]

theorem registrations_registerAlias_of_ok {definition : Value} {parsed : AliasDefinition}
    (h : AliasDefinition.parse definition = .ok parsed) (other target : Target) :
    (Operation.registerAlias other definition).registrations target =
      if other = target then [(parsed.name, .aliased parsed)] else [] := by
  simp only [Operation.registrations, aliasOf, h]

/-- The registry that an operation sets up for a target if it succeeds: that of a new validator and
a copy start with the builders of their source, and the default registry starts with the built-in
rules after a reset. -/
def Operation.foundation? (s : Store) (target : Target) : Operation → Option Registry
  | .createValidator id _ _ => if target = .validator id then some s.defaultContents.copy else none
  | .copyRegistry source id name =>
    if target = .registry id then (s.registryOf? source).map (·.copy name) else none
  | .createRegistry id entries name =>
    if target = .registry id then
      some (({ name } : Registry).putAll (Registry.accepted entries))
    else none
  | .resetDefault => if target = .default then some .ofBuiltins else none
  | _ => none

/-- The registry that an operation sets up for a target in a store. One that fails sets up none. -/
def Operation.origin? (operation : Operation) (s : Store) (target : Target) : Option Registry :=
  if (perform operation s).1.isOk then operation.foundation? s target else none

theorem origin?_eq_none {operation : Operation} (h : operation.foundation? s target = none) :
    operation.origin? s target = none := by
  unfold Operation.origin?
  rw [h, ite_self]

/-- To ask whether an input is valid is to validate it. -/
theorem after_isValid (s : Store) (id : String) (data : Value) :
    after s (.isValid id data) = after s (.validate id data) := by
  show ((Answer.ofOption Answer.valid <$> isValid id data).run s).2 =
    ((Answer.ofOption Answer.result <$> validate id data).run s).2
  rw [run_map, isValid, run_map, run_map]

/-- None of the operations of a run sets a registry up for the target. -/
def Kept (target : Target) : Store → List Operation → Prop
  | _, [] => True
  | s, operation :: rest =>
    operation.origin? s target = none ∧ Kept target (after s operation) rest

theorem afterAll_append (s : Store) (operations more : List Operation) :
    afterAll s (operations ++ more) = afterAll (afterAll s operations) more := List.foldl_append

section
variable {r : Registry} (h : s.registryOf? target = some r) {fit : List Registry.Entry}
  (hfit : ∀ entry ∈ fit, (Registry.fit? entry).isSome)
include h hfit

end

/-- A rule that accepts everything. -/
def lenient : Builder :=
  .custom
    { label := "lenient", signature := some {},
      recipe := fun _ => .ready (.custom fun _ _ => .ok .pass) }

end FieldRules.Session
