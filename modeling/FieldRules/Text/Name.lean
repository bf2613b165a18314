import FieldRules.Text.Digit
import FieldRules.Text.Name.Alias
import FieldRules.Text.Name.EastAsian
import FieldRules.Text.Name.Historic
import FieldRules.Text.Name.Pictographs
import FieldRules.Text.Name.Scripts
import FieldRules.Text.Name.Symbols
import FieldRules.Text.Split

/-!
# Names of characters

A character can be called by its name. Most names are listed in tables; the names of ideographs end
in the character's code, and those of Hangul syllables spell the syllable.

Names in the tables are found whatever the case of their letters. The ideographs of the unified
families and the syllables are more particular: only capital letters count.

A table gives each name by what is new in it. `@` and a code say where the next name belongs, and
the names after it belong to the codes after that one. Each name starts with a small letter that
tells how many of its first words are those of the name before it: `a` none, `b` one, and so on.
Where a table is cut into pieces means nothing.
-/

set_option autoImplicit false

namespace FieldRules.Text.Name

/-! ## Listed names -/

/-- Whether a character of a table begins an item. -/
def isMark (c : Char) : Bool := c = '@' || c.isLower

/-- The items of a table: each mark with the characters after it. -/
def items (table : List Char) : List (Char × List Char) :=
  (table.foldr
    (fun c (items, rest) => if isMark c then ((c, rest) :: items, []) else (items, c :: rest))
    ([], [])).1

/-- How far the reading of a table has come: the words of the last name, the code of the next one,
and the code of the name looked for. -/
structure Scan where
  words : List (List Char) := []
  code : Nat := 0
  found : Option Nat := none

/-- Takes up the next item of a table, `name` being the words looked for. -/
def Scan.take (name : List (List Char)) (scan : Scan) (item : Char × List Char) : Scan :=
  let (mark, rest) := item
  if mark = '@' then { scan with code := valueIn 16 rest }
  else
    let fresh := if rest.isEmpty then [] else pieces ' ' rest
    let words := scan.words.take (mark.toNat - 'a'.toNat) ++ fresh
    let found := if words = name then some scan.code else scan.found
    ⟨words, scan.code + 1, found⟩

/-- The code of a name in a table. -/
def listed? (name : List Char) (table : List String) : Option Nat :=
  ((items (table.flatMap String.toList)).foldl (Scan.take (pieces ' ' name)) {}).found

example : listed? "EM SPACE".toList ["@2000aEN QUADaEM QUAD", "aEN SPACEaEM SPACE"] =
    some 0x2003 := by
  decide +kernel
example : listed? "EM SPACE RULE".toList ["@2002aEN SPACEaEM SPACEcRULE"] = some 0x2004 := by
  decide +kernel

/-- The tables. -/
def tables : List (List String) := [scripts, symbols, eastAsian, historic, pictographs, aliases]

/-! ## Names that end in a code -/

/-- What follows a beginning. -/
def after? (start : String) (name : List Char) : Option (List Char) :=
  if start.toList.isPrefixOf name then some (name.drop start.length) else none

/-- The code of a member of a family of characters, all but the code's digits being the same in
their names. -/
def member? (family : String × CodeSet) (name : List Char) : Option Nat := do
  let (start, codes) := family
  let digits ← after? start name
  let code := valueIn 16 digits
  let written := (Nat.toDigits 16 code).map Char.toUpper
  if digits = written && codes.contains code then some code else none

/-- The families with names that end in the code. -/
def families : List (String × CodeSet) := [
  ("CJK COMPATIBILITY IDEOGRAPH-", [0xf900, 0xfa6e, 0xfa70, 0xfada, 0x2f800, 0x2fa1e]),
  ("KHITAN SMALL SCRIPT CHARACTER-", [0x18b00, 0x18cd6]),
  ("NUSHU CHARACTER-", [0x1b170, 0x1b2fc])]

/-- The unified ideographs. -/
def ideographs : CodeSet := [
  0x3400, 0x4dc0, 0x4e00, 0xa000, 0x20000, 0x2a6e0, 0x2a700, 0x2b739, 0x2b740, 0x2b81e, 0x2b820,
  0x2cea2, 0x2ceb0, 0x2ebe1, 0x30000, 0x3134b]

/-- The unified ideograph whose code has the given digits, a leading zero being allowed. -/
def ideograph? (digits : List Char) : Option Nat :=
  let code := valueIn 16 digits
  if (digits.length = 4 || digits.length = 5) &&
      digits.all (fun c => isAsciiDigit c || ('A' ≤ c && c ≤ 'F')) && ideographs.contains code
  then some code
  else none

/-! ## Syllables -/

/-- The consonants that begin a syllable. -/
def leads : List String := [
  "G", "GG", "N", "D", "DD", "R", "M", "B", "BB", "S", "SS", "", "J", "JJ", "C", "K", "T", "P", "H"]

/-- The vowels of a syllable. -/
def vowels : List String := [
  "A", "AE", "YA", "YAE", "EO", "E", "YEO", "YE", "O", "WA", "WAE", "OE", "YO", "U", "WEO", "WE",
  "WI", "YU", "EU", "YI", "I"]

/-- The consonants that end a syllable. -/
def trails : List String := [
  "", "G", "GG", "GS", "N", "NJ", "NH", "D", "L", "LG", "LM", "LB", "LS", "LT", "LP", "LH", "M",
  "B", "BS", "S", "SS", "NG", "J", "C", "K", "T", "P", "H"]

/-- The longest of some sounds with which the characters begin: its place among them, and what
follows it. -/
def longest? (sounds : List String) (cs : List Char) : Option (Nat × List Char) :=
  let found := (sounds.zipIdx.filter fun (sound, _) => sound.toList.isPrefixOf cs).foldl
    (fun best (sound, i) => match best with
      | some (size, _) => if size < sound.length then some (sound.length, i) else best
      | none => some (sound.length, i))
    none
  found.map fun (size, i) => (i, cs.drop size)

/-- The syllable that is spelled so. -/
def syllable? (spelling : List Char) : Option Nat := do
  let (lead, rest) ← longest? leads spelling
  let (vowel, rest) ← longest? vowels rest
  let (trail, rest) ← longest? trails rest
  if rest.isEmpty then some (0xac00 + (lead * vowels.length + vowel) * trails.length + trail)
  else none

example : syllable? "GAGG".toList = some 0xac02 := by decide +kernel
example : syllable? "HIH".toList = some 0xd7a3 := by decide +kernel
example : syllable? "Ga".toList = none := by decide +kernel

/-! ## All names -/

/-- The code of the character with a name. -/
def find? (name : List Char) : Option Nat :=
  match after? "HANGUL SYLLABLE " name, after? "CJK UNIFIED IDEOGRAPH-" name with
  | some spelling, _ => syllable? spelling
  | none, some digits => ideograph? digits
  | none, none =>
    let name := name.map Char.toUpper
    families.findSome? (member? · name) <|> tables.findSome? (listed? name)

end FieldRules.Text.Name
