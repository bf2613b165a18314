import FieldRules.Pattern.Reader
import FieldRules.Pattern.Search

/-!
# Patterns

A pattern is read once, when a schema is compiled, and searched for in every text afterwards.
-/

set_option autoImplicit false

namespace FieldRules

/-- A pattern that has been read. -/
structure Pattern where
  source : String
  flags : Pattern.Flags
  node : Pattern.Node
  /-- The least number of characters that it matches. -/
  least : Nat
  /-- The characters with which a match may start, where they are known. -/
  start : Option (Char → Bool)

namespace Pattern

/-- Reads a pattern under some flags. -/
def ofSource (flags : Flags) (source : String) : Except Rejection Pattern := do
  let (items, flags) ← read flags source
  let node ← nodeOf flags items
  return ⟨source, flags, node, (Item.widthOfAll items).1, start? flags items⟩

/-- The trace of the first match in a text. A text with fewer characters than the pattern needs has
none, and places that leave too few of them are not tried, one apart. -/
def search? (pattern : Pattern) (text : String) : Option Trace :=
  let chars := text.toList.toArray
  if chars.size < pattern.least then none
  else
    let last := match pattern.start with
      | some _ => chars.size
      | none => chars.size - (pattern.least - 1)
    pattern.node.searchFrom pattern.start chars 0 (last + 1)

end Pattern

end FieldRules
