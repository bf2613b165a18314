/-!
# Sets of code points

A property of characters is a set of code points, and every property used here comes in long runs.
So a set is written as its *switch points*: the ascending code points at which membership changes,
starting from "not a member". `[a, b, c, d]` is the set `a ≤ x < b ∨ c ≤ x < d`. One list of
numbers is then both the table and, through `contains`, the decision procedure.
-/

set_option autoImplicit false

namespace FieldRules.Text

/-- The switch points of a set of code points, ascending. -/
abbrev CodeSet := List Nat

namespace CodeSet

/-- Membership after the switch points below `x` have been passed, `state` being the side on which
the walk stands. -/
def containsFrom : Bool → CodeSet → Nat → Bool
  | state, [], _ => state
  | state, s :: rest, x => if x < s then state else containsFrom (!state) rest x

/-- Whether code point `x` belongs to the set. -/
def contains (set : CodeSet) (x : Nat) : Bool := containsFrom false set x

/-- Whether a character belongs to the set. -/
def has (set : CodeSet) (c : Char) : Bool := set.contains c.toNat

end CodeSet

end FieldRules.Text
