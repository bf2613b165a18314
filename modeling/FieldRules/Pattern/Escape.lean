import FieldRules.Pattern.Source
import FieldRules.Text.Name

/-!
# Escapes

What a backslash means. Most escapes are the same inside and outside a character set; outside, a
number may also refer to a group, and the anchors have letters.
-/

set_option autoImplicit false

namespace FieldRules.Pattern.Reader

/-- An octal digit. -/
def isOctalDigit (c : Char) : Bool := '0' ≤ c && c ≤ '7'

/-- The single characters that have a letter of their own. -/
def letterEscapes : List (Char × Nat) :=
  [('a', 7), ('f', 12), ('n', 10), ('r', 13), ('t', 9), ('v', 11), ('\\', 92)]

/-- The character classes that have a letter of their own. -/
def classLetters : List (Char × Category × Bool) :=
  [('d', .digit, false), ('D', .digit, true), ('s', .space, false), ('S', .space, true),
    ('w', .word, false), ('W', .word, true)]

/-- The anchors that have a letter of their own. -/
def anchorLetters : List (Char × Anchor) :=
  [('A', .textStart), ('b', .boundary false), ('B', .boundary true), ('Z', .textEnd)]

/-- The number of digits of a hexadecimal escape. -/
def hexWidths : List (Char × Nat) := [('x', 2), ('u', 4), ('U', 8)]

/-- Rejects an escape as it has been read so far. -/
def rejectEscape {α : Type} (problem : String → Problem) (escape : List Char) : Reader α :=
  reject (problem (String.ofList escape)) escape.length

/-- Reads the digits of a hexadecimal escape. -/
def readHex (c : Char) (width : Nat) : Reader Nat := do
  let ds ← takeUpTo Text.isHexDigit width
  let escape := '\\' :: c :: ds
  if ds.length ≠ width then rejectEscape .incompleteEscape escape
  else
    let code := Text.valueIn 16 ds
    if 0x10ffff < code then rejectEscape .badEscape escape else return code

/-- Reads a character by name. -/
def readNamed : Reader Nat := do
  if !(← accept '\x7b') then reject .missingBrace
  else
    let name ← readUntil '\x7d' "character name"
    match Text.Name.find? name with
    | some code => return code
    | none => reject (.undefinedCharacter (String.ofList name)) (name.length + 4)

/-- A character that needs no escape, or a letter that is none. -/
def plainEscape (c : Char) : Reader Nat := do
  if c.isAlpha then rejectEscape .badEscape ['\\', c] else return c.toNat

/-- Reads an escape inside a character set. -/
def readSetEscape (c : Char) : Reader Member := do
  if c = 'b' then return .char 8
  match letterEscapes.lookup c, classLetters.lookup c, hexWidths.lookup c with
  | some code, _, _ => return .char code
  | _, some (kind, negated), _ => return .category kind negated
  | _, _, some width => return .char (← readHex c width)
  | none, none, none =>
    if c = 'N' then return .char (← readNamed)
    else if isOctalDigit c then
      let ds := c :: (← takeUpTo isOctalDigit 2)
      let code := Text.valueIn 8 ds
      if 0o377 < code then rejectEscape .octalTooLarge ('\\' :: ds) else return .char code
    else if c.isDigit then rejectEscape .badEscape ['\\', c]
    else return .char (← plainEscape c)

/-- A reference to the group with the given digits. -/
def referenceTo (ds : List Char) : Reader Item := do
  let group := Text.valueIn 10 ds
  if group < (← get).widths.size then reference group (ds.length + 1)
  else reject (.invalidReference group) ds.length

/-- Whether the token held ready is a character of a kind. -/
def nextIs (kind : Char → Bool) : Reader Bool := do
  match (← get).next with
  | some (.plain c) => return kind c
  | _ => return false

/-- Reads an escape that starts with a digit other than zero: three octal digits are a character,
anything else is a reference. -/
def readNumberEscape (c : Char) : Reader Item := do
  let second ← takeUpTo Char.isDigit 1
  match second with
  | [d] =>
    if isOctalDigit c && isOctalDigit d && (← nextIs isOctalDigit) then
      let third ← takeUpTo isOctalDigit 1
      let ds := c :: d :: third
      let code := Text.valueIn 8 ds
      if 0o377 < code then rejectEscape .octalTooLarge ('\\' :: ds) else return .char code
    else referenceTo [c, d]
  | _ => referenceTo [c]

/-- Reads an escape outside a character set. -/
def readEscape (c : Char) : Reader Item := do
  match anchorLetters.lookup c, classLetters.lookup c, letterEscapes.lookup c,
    hexWidths.lookup c with
  | some a, _, _, _ => return .anchor a
  | _, some (kind, negated), _, _ => return .set false [.category kind negated]
  | _, _, some code, _ => return .char code
  | _, _, _, some width => return .char (← readHex c width)
  | none, none, none, none =>
    if c = 'N' then return .char (← readNamed)
    else if c = '0' then
      let ds ← takeUpTo isOctalDigit 2
      return .char (Text.valueIn 8 ds)
    else if c.isDigit then readNumberEscape c
    else return .char (← plainEscape c)

end FieldRules.Pattern.Reader
