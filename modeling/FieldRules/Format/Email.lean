import FieldRules.Text.Split

/-!
# E-mail addresses

An address is a local part and a domain around one `@`. Both are made of pieces joined by single
dots; the domain ends in a label of letters, at least two, and does not start with a hyphen.
-/

set_option autoImplicit false

namespace FieldRules.Format

/-- An ASCII letter or digit. -/
def isAlphanumeric (c : Char) : Bool := c.isAlphanum

/-- A character of a local part. -/
def isLocalChar (c : Char) : Bool := isAlphanumeric c || "._%+-".toList.contains c

/-- A character of a domain. -/
def isDomainChar (c : Char) : Bool := isAlphanumeric c || c == '.' || c == '-'

/-- Whether two dots follow each other. -/
def hasDoubleDot : List Char → Bool
  | '.' :: '.' :: _ => true
  | _ :: rest => hasDoubleDot rest
  | [] => false

/-- Whether a domain has at least one label before its last one, which consists of two or more
letters. -/
def endsInLetters (domain : List Char) : Bool :=
  match Text.cutLast? '.' domain with
  | some (before, last) =>
    !before.isEmpty && before.all isDomainChar && 2 ≤ last.length && last.all Char.isAlpha
  | none => false

/-- Whether a text is an e-mail address. -/
def isEmail (text : String) : Bool :=
  match Text.cutFirst? '@' text.toList with
  | some (person, domain) =>
    !person.isEmpty && person.all isLocalChar && endsInLetters domain &&
    !hasDoubleDot text.toList &&
    person.head? != some '.' && person.getLast? != some '.' &&
    domain.head? != some '.' && domain.head? != some '-'
  | none => false

example : isEmail "john.doe+tag@mail.example.com" = true := by decide +kernel
example : isEmail "a..b@c.de" = false := by decide +kernel
example : isEmail "a@b.c1" = false := by decide +kernel

end FieldRules.Format
