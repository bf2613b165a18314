import FieldRules.Text.Case.Context
import FieldRules.Text.Case.Mapping

/-!
# Upper and lower case of a text

Capitals are taken character by character. Small letters too, except that a capital sigma at the
end of a word becomes the final sigma.
-/

set_option autoImplicit false

namespace FieldRules.Text

/-- The text in capitals. -/
def toUpper (s : String) : String := String.ofList (s.toList.flatMap upperOf)

/-- The small form of `rest`, given the characters that stand before it, nearest first. -/
def lowerAfter : List Char → List Char → List Char
  | _, [] => []
  | before, c :: rest =>
    let image :=
      if c = 'Σ' then (if endsWord before rest then ['ς'] else ['σ']) else lowerOf c
    image ++ lowerAfter (c :: before) rest

/-- The text in small letters. -/
def toLower (s : String) : String := String.ofList (lowerAfter [] s.toList)

end FieldRules.Text
