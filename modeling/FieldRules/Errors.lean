import FieldRules.Fault
import FieldRules.Rule.Recipe

/-!
# Reading errors

The error of a validation has the shape of the input: a mapping or a list has the errors of its
parts in it, null marks a list item that passed, and whatever else stands there is a *leaf*. A leaf
is reported with its place, the keys and indices that lead to it; the texts of place and leaf are
made only when they are asked for, so that the leaves themselves always exist.
-/

set_option autoImplicit false

namespace FieldRules.Errors

/-- A way into a nested value: the keys of mappings and the indices of lists. -/
abbrev Place := List Value

mutual

/-- The leaves of an error in order, each with its place. -/
def leaves : Value → List (Place × Value)
  | .null => []
  | .map entries => entryLeaves entries
  | .list xs => itemLeaves 0 xs
  | leaf => [([], leaf)]

/-- The leaves under the entries of a mapping. -/
def entryLeaves : Entries → List (Place × Value)
  | [] => []
  | (key, error) :: rest =>
    (leaves error).map (fun (place, leaf) => (key :: place, leaf)) ++ entryLeaves rest

/-- The leaves under the items of a list, counted from an index on. -/
def itemLeaves : Nat → List Value → List (Place × Value)
  | _, [] => []
  | index, error :: rest =>
    (leaves error).map (fun (place, leaf) => (.int index :: place, leaf)) ++
      itemLeaves (index + 1) rest

end

/-- The leaves with their texts, below a place. -/
def listed (errors : Value) (below : Place := []) : Except Fault (List (Place × String)) :=
  (leaves errors).mapM fun (place, leaf) => return (below ++ place, ← leaf.display)

/-- A segment of a path: indices stand in brackets, and names are set off by points. -/
def segmentText (first : Bool) (segment : Value) : Except Fault String := do
  let text ← segment.display
  match segment with
  | .int _ | .bool _ => return "[" ++ text ++ "]"
  | _ => return if first then text else "." ++ text

/-- The text of a place. -/
def path : Place → Except Fault String
  | [] => .ok "$"
  | segment :: rest => do
    let head ← segmentText true segment
    let tail ← rest.mapM (segmentText false)
    return String.join (head :: tail)

/-- The leaves by their paths. Where two paths read the same, the later leaf takes the place of the
earlier one. -/
def flatten (errors : Value) : Except Fault (List (String × String)) := do
  let items ← listed errors
  let named ← items.mapM fun (place, leaf) => return (← path place, leaf)
  return named.foldl (fun flat (path, leaf) => putNamed path leaf flat) []

/-- The number of leaves. -/
def count (errors : Value) : Nat := (leaves errors).length

/-- The different texts among some, in alphabetical order. -/
def distinct (texts : List String) : List String :=
  let sorted := texts.mergeSort fun a b => a ≤ b
  sorted.foldr (fun text rest => if rest.head? = some text then rest else text :: rest) []

/-- The different codes of an error, in alphabetical order. -/
def codes (errors : Value) : Except Fault (List String) := do
  let items ← listed errors
  return distinct (items.map (·.2))

end FieldRules.Errors
