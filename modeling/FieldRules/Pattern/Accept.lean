import FieldRules.Pattern.Item
import FieldRules.Text.Blank
import FieldRules.Text.Case.Fold
import FieldRules.Text.Digit
import FieldRules.Text.Letter

/-!
# The characters that an item accepts

Literals, sets and classes are conditions on one character. When case is ignored the character of
the text is taken in its small form; the item is prepared so that comparing small forms is enough.
An item without a cased character is compared as it is.

Preparing a set covers the characters of the basic plane only. A literal beyond it is compared, in
its own form, with the small form of the text's character, and a range beyond it is tried with both
forms.
-/

set_option autoImplicit false

namespace FieldRules.Pattern

/-- How case is treated. -/
inductive Casing where
  | exact
  | ignoreAscii
  | ignoreAll
deriving DecidableEq, Repr

/-- The treatment of case under some flags. -/
def Flags.casing (flags : Flags) : Casing :=
  if flags.ignoreCase then if flags.unicode then .ignoreAll else .ignoreAscii else .exact

/-- Whether a character belongs to a class. -/
def Category.accepts (ascii : Bool) (kind : Category) (c : Char) : Bool :=
  match kind with
  | .digit => if ascii then Text.isAsciiDigit c else Text.isDigit c
  | .space => if ascii then " \t\n\r\x0b\x0c".toList.contains c else Text.isBlank c
  | .word => if ascii then Text.isAsciiWordChar c else Text.isWordChar c

namespace Casing

/-- A function on characters as one on code points. -/
def onCode (f : Char → Char) (code : Nat) : Nat :=
  if code.isValidChar then (f (Char.ofNat code)).toNat else code

/-- The small form of a code point. -/
def lower : Casing → Nat → Nat
  | exact, code => code
  | ignoreAscii, code => if 0x41 ≤ code && code ≤ 0x5a then code + 32 else code
  | ignoreAll, code => onCode Text.lowerChar code

/-- Whether case matters to a code point. -/
def isCased : Casing → Nat → Bool
  | exact, _ => false
  | ignoreAscii, code => (0x41 ≤ code && code ≤ 0x5a) || (0x61 ≤ code && code ≤ 0x7a)
  | ignoreAll, code => code.isValidChar && Text.isCased (Char.ofNat code)

/-- The small forms that count as the same letter as a small form. -/
def sameLetter : Casing → Nat → List Nat
  | ignoreAll, code => Text.foldClass code
  | _, code => [code]

/-- The code points with a given small form. -/
def withLower : Casing → Nat → List Nat
  | exact, code => [code]
  | ignoreAscii, code =>
    if 0x61 ≤ code && code ≤ 0x7a then [code, code - 32]
    else if 0x41 ≤ code && code ≤ 0x5a then [] else [code]
  | ignoreAll, code =>
    let sources := code :: (Text.CaseRun.sources Text.lowerRuns code ++
      Text.lowerSpecials.filterMap fun (source, image) =>
        if image.head? = some code then some source else none)
    sources.filter fun source => onCode Text.lowerChar source == code

/-- Whether a text's character is the literal `code`. -/
def acceptsLiteral (casing : Casing) (code : Nat) : Char → Bool :=
  if casing.isCased code then
    let forms := casing.sameLetter (casing.lower code)
    fun c => forms.contains (casing.lower c.toNat)
  else fun c => c.toNat == code

end Casing

/-- The first code point beyond the basic plane. -/
def planeEnd : Nat := 0x10000

/-- Whether any code point of a range satisfies a condition. -/
def anyInRange (p : Nat → Bool) (low : Nat) : (count : Nat) → Bool
  | 0 => false
  | count + 1 => p low || anyInRange p (low + 1) count

namespace Member

/-- Whether the member makes its set one in which case matters. -/
def isCased (casing : Casing) : Member → Bool
  | char code => casing != .exact && (planeEnd ≤ casing.lower code || casing.isCased code)
  | range low high =>
    casing != .exact && (planeEnd ≤ high || anyInRange casing.isCased low (high + 1 - low))
  | category _ _ => false

/-- Whether a character belongs to the member, case being respected. -/
def accepts (ascii : Bool) (c : Char) : Member → Bool
  | char code => c.toNat == code
  | range low high => low ≤ c.toNat && c.toNat ≤ high
  | category kind negated => kind.accepts ascii c != negated

/-- Whether a small form belongs to the member, case being ignored. -/
def acceptsFolded (casing : Casing) (ascii : Bool) (x : Nat) : Member → Bool
  | char code =>
    if planeEnd ≤ casing.lower code then x == code
    else (casing.sameLetter (casing.lower code)).contains x
  | range low high =>
    let within (code : Nat) : Bool := low ≤ code && code ≤ high
    let reached := (casing.sameLetter x).any fun form => (casing.withLower form).any fun code =>
      within code && code < planeEnd
    let beyond := planeEnd ≤ high && (within x || within (Casing.onCode Text.upperChar x))
    reached || beyond
  | category kind negated => kind.accepts ascii (Char.ofNat x) != negated

end Member

/-- What kind of condition on one character it is, as far as matching takes notice of it. -/
inductive CharTest.Kind where
  /-- One character and no other. -/
  | literal (code : Nat)
  /-- A set in which case does not matter. -/
  | set
  /-- A set of small forms. -/
  | folded
  | other
deriving DecidableEq, Repr

/-- A condition on one character. -/
structure CharTest where
  kind : CharTest.Kind
  accepts : Char → Bool

namespace CharTest

/-- The condition of a literal, or its opposite. A letter with several small forms is a set of
them. -/
def ofLiteral (casing : Casing) (negated : Bool) (code : Nat) : CharTest :=
  let accepts := casing.acceptsLiteral code
  let kind : Kind :=
    if casing.isCased code then
      if 1 < (casing.sameLetter (casing.lower code)).length then .folded else .other
    else if negated then .other
    else .literal code
  ⟨kind, fun c => accepts c != negated⟩

/-- The condition of a character set. -/
def ofSet (flags : Flags) (negated : Bool) (members : List Member) : CharTest :=
  let casing := flags.casing
  let ascii := !flags.unicode
  if members.any (Member.isCased casing) then
    ⟨.folded, fun c =>
      members.any (Member.acceptsFolded casing ascii (casing.lower c.toNat)) != negated⟩
  else ⟨.set, fun c => members.any (Member.accepts ascii c) != negated⟩

end CharTest

/-- The condition on one character that an item is, if it is one. -/
def Item.test? (flags : Flags) : Item → Option CharTest
  | .char code => some (.ofLiteral flags.casing false code)
  | .notChar code => some (.ofLiteral flags.casing true code)
  | .any => some ⟨.other, fun c => flags.dotAll || c != '\n'⟩
  | .set negated members => some (.ofSet flags negated members)
  | _ => none

/-- Whether two characters count as the same in a reference to a group. -/
def sameCharacter (flags : Flags) (a b : Char) : Bool :=
  flags.casing.lower a.toNat == flags.casing.lower b.toNat

end FieldRules.Pattern
