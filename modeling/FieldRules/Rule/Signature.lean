/-!
# Signatures

How many arguments a rule takes. A rule has required arguments, which have names, then optional
ones, and may take any number more. A rule without a signature is not checked; its own builder has
to object.
-/

set_option autoImplicit false

namespace FieldRules

/-- The arguments that a rule takes. -/
structure Signature where
  required : List String := []
  optional : Nat := 0
  variadic : Bool := false
deriving DecidableEq, Repr

/-- What is wrong with a number of arguments. -/
inductive ArityProblem where
  | missing (argument : String)
  | tooMany
deriving DecidableEq, Repr

/-- The wording of the problem. -/
def ArityProblem.message : ArityProblem → String
  | missing argument => "missing a required argument: '" ++ argument ++ "'"
  | tooMany => "too many positional arguments"

namespace Signature

/-- The problem with passing `count` arguments, if there is one. -/
def problem? (s : Signature) (count : Nat) : Option ArityProblem :=
  match s.required.drop count with
  | argument :: _ => some (.missing argument)
  | [] =>
    if !s.variadic && s.required.length + s.optional < count then some .tooMany else none

theorem problem?_eq_none_iff (s : Signature) (count : Nat) :
    s.problem? count = none ↔
      s.required.length ≤ count ∧ (s.variadic = true ∨ count ≤ s.required.length + s.optional) := by
  unfold problem?
  cases h : s.required.drop count with
  | nil =>
    have : s.required.length ≤ count := List.drop_eq_nil_iff.1 h
    cases s.variadic <;> simp <;> omega
  | cons a rest =>
    have : ¬ s.required.length ≤ count := fun hle => by
      rw [List.drop_eq_nil_iff.2 hle] at h; cases h
    simp [this]

/-- Names in a list of two or more, the last one after "and". -/
def listed : List String → String
  | [] => ""
  | [a] => a
  | [a, b] => a ++ " and " ++ b
  | names => String.intercalate ", " names.dropLast ++ ", and " ++ names.getLastD ""

/-- The objection to calling a rule's builder itself with `count` arguments, which come after the
registry. -/
def callObjection? (s : Signature) (label : String) (count : Nat) : Option String :=
  let plural (n : Nat) : String := if n = 1 then "" else "s"
  match s.required.drop count with
  | [] =>
    if !s.variadic && s.required.length + s.optional < count then
      let least := s.required.length + 1
      let most := least + s.optional
      let range := if s.optional = 0 then toString most
        else "from " ++ toString least ++ " to " ++ toString most
      some (label ++ "() takes " ++ range ++ " positional argument" ++ plural most ++ " but " ++
        toString (count + 1) ++ (if count = 0 then " was" else " were") ++ " given")
    else none
  | missing =>
    some (label ++ "() missing " ++ toString missing.length ++ " required positional argument" ++
      plural missing.length ++ ": " ++ listed (missing.map fun name => "'" ++ name ++ "'"))

end Signature

end FieldRules
