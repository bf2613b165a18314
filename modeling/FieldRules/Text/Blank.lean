import FieldRules.Text.CodeSet

/-!
# Blank characters and trimming

Trimming is part of the meaning of a schema: the `trim` rule, the auto-trim pass and the reading of
numerals all drop blanks at both ends, and all three must agree on what a blank is. The set is the
characters of bidirectional class WS, B or S together with the space separators; the zero-width
characters and the byte order mark are *not* blank.

White space is narrower: settings, and numerals where only a float is read, do not take the four
separators among the control characters for it.
-/

set_option autoImplicit false

namespace FieldRules.Text

/-- The blank characters. -/
def blanks : CodeSet := [
  0x9, 0xe, 0x1c, 0x21, 0x85, 0x86, 0xa0, 0xa1, 0x1680, 0x1681, 0x2000, 0x200b, 0x2028, 0x202a,
  0x202f, 0x2030, 0x205f, 0x2060, 0x3000, 0x3001]

/-- Whether a character is dropped by trimming. -/
def isBlank (c : Char) : Bool := blanks.has c

/-- A character list without its leading and trailing blanks. -/
def trimList (cs : List Char) : List Char :=
  ((cs.dropWhile isBlank).reverse.dropWhile isBlank).reverse

/-- A text without its leading and trailing blanks. -/
def trim (s : String) : String := String.ofList (trimList s.toList)

/-- Whether a character is white space in the narrower sense, in which the four separators among the
control characters are not. -/
def isWhiteSpace (c : Char) : Bool := isBlank c && !(0x1c ≤ c.toNat && c.toNat < 0x20)

/-- A character list without white space at both ends. -/
def stripWhiteSpace (cs : List Char) : List Char :=
  ((cs.dropWhile isWhiteSpace).reverse.dropWhile isWhiteSpace).reverse

@[simp] theorem toList_trim (s : String) : (trim s).toList = trimList s.toList := by
  simp [trim]

end FieldRules.Text
