import FieldRules.Value

/-!
# Equality of values

Numbers are equal when their exact values are, whatever their kinds, and a boolean is equal to 0 or
1; everything else is equal only to values of its own kind. Comparing a signalling not-a-number with
a number is refused, so equality has three answers, and the refusal arises only if the comparison
gets as far as the offending element.

The keys of a mapping are told apart by the same equality, which is why `1`, `1.0` and `true` are
one key.
-/

set_option autoImplicit false

namespace FieldRules

/-- What a number is worth in a comparison, non-finite ones included. -/
inductive Worth where
  | nan
  | signalling
  | infinite (negative : Bool)
  | finite (x : Scientific)

namespace Worth

/-- Equality of worths; none when a signalling not-a-number takes part. -/
def equal? : Worth → Worth → Option Bool
  | signalling, _ => none
  | _, signalling => none
  | infinite a, infinite b => some (a == b)
  | finite x, finite y => some (x.compare y == .eq)
  | _, _ => some false

end Worth

namespace Value

/-- The worth of a number or boolean. -/
def worth? : Value → Option Worth
  | bool b => some (.finite (.ofInt (if b then 1 else 0)))
  | int i => some (.finite (.ofInt i))
  | float .nan => some .nan
  | float (.infinity negative) => some (.infinite negative)
  | float (.finite negative rank) => some (.finite (Binary64.exactAt negative rank))
  | decimal (.nan _ signalling _) => some (if signalling then .signalling else .nan)
  | decimal (.infinity negative) => some (.infinite negative)
  | decimal (.finite negative coefficient exponent) =>
    some (.finite ⟨Binary64.signed negative coefficient, exponent⟩)
  | _ => none

/-- Equality of values that hold no other values. -/
def equalAtoms? (a b : Value) : Option Bool :=
  match a.worth?, b.worth? with
  | some x, some y => x.equal? y
  | none, none =>
    match a, b with
    | null, null => some true
    | text s, text t => some (s == t)
    | bytes s, bytes t => some (s == t)
    | _, _ => some false
  | _, _ => some false

mutual

/-- Equality of values; none if it is refused. -/
def equal? : Value → Value → Option Bool
  | list xs, list ys => if xs.length = ys.length then equalItems? xs ys else some false
  | tuple xs, tuple ys => equalItems? xs ys
  | map xs, map ys => if xs.length = ys.length then equalEntries? xs ys else some false
  | a, b => equalAtoms? a b

/-- Equality of sequences, decided by the first difference. -/
def equalItems? : List Value → List Value → Option Bool
  | [], [] => some true
  | x :: xs, y :: ys => do
    if ← equal? x y then equalItems? xs ys else some false
  | _, _ => some false

/-- Whether each entry has its equal among the others. -/
def equalEntries? : Entries → Entries → Option Bool
  | [], _ => some true
  | (k, v) :: rest, others =>
    match others.find? fun other => equal? k other.1 == some true with
    | some other => do
      if ← equal? v other.2 then equalEntries? rest others else some false
    | none => some false

end

/-- Whether two values are the same key. -/
def sameKey (a b : Value) : Bool := equal? a b == some true

end Value

end FieldRules
