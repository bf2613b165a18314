import FieldRules.Check.Leaf
import FieldRules.Spec

/-!
# Compiled schemas

A schema compiles to a tree. Each field has a chain of steps, a step being a rule's invocation
together with the check that its builder made of it. The structural rules have chains or whole
schemas inside them, and an alias has the chain of its own rules; nothing else in the tree refers to
a registry, so what happens to a registry later cannot change a compiled schema.

Trimming is a check of its own, apart from the rule `trim`, because the pass that auto-trim puts in
front of a chain is fixed: replacing the rule does not replace it.
-/

set_option autoImplicit false

namespace FieldRules

mutual

/-- What a rule does to a value. -/
inductive Check where
  | leaf (leaf : Leaf)
  | autoTrim
  | aliased (fixed : Option String) (chain : List Step)
  | object (schema : CompiledSchema)
  | variant (selector : String) (variants : List (String × CompiledSchema))
  | each (chain : List Step)
  | eachObject (schema : CompiledSchema)
  | eachVariant (selector : String) (variants : List (String × CompiledSchema))
  | firstOf (chains : List (List Step))
  | custom (run : Value → Entries → Except Fault Effect)

/-- An invocation of a rule and the check that came of it. -/
structure Step where
  rule : Invocation
  check : Check

/-- The chains of a schema's fields. Auto-trim is recorded because it also trims what the fields see
of each other. -/
structure CompiledSchema where
  fields : List (String × List Step)
  autoTrim : Bool

end

/-- The checks of a field, in order. -/
abbrev Chain := List Step

/-- The rules of a chain. -/
def Chain.rules (chain : Chain) : List Invocation := chain.map (·.rule)

/-- Texts that may be missing, all of them or none. -/
def allTexts : List Invocation → Option (List String)
  | [] => some []
  | invocation :: rest => do
    let text ← invocation.text?
    let others ← allTexts rest
    some (text :: others)

namespace CompiledSchema

/-- The names of the fields. -/
def names (schema : CompiledSchema) : List String := schema.fields.map (·.1)

/-- The texts of the rules of each field. -/
def describe (schema : CompiledSchema) : Except Fault (List (String × List String)) :=
  schema.fields.mapM fun (name, chain) =>
    match allTexts (Chain.rules chain) with
    | some texts => .ok (name, texts)
    | none => .error .numberTooLong

end CompiledSchema

end FieldRules
