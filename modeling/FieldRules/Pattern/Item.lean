/-!
# Patterns as they are written

A pattern is a sequence of items. This is the written form: flags are still attached to the groups
that set them, and groups without a number that set no flags have already dissolved into their
surroundings. Characters are code points, since a pattern may name a code point that is no
character.
-/

set_option autoImplicit false

namespace FieldRules.Pattern

/-- The flags that govern how items are read and matched. -/
structure Flags where
  ignoreCase : Bool := false
  multiline : Bool := false
  dotAll : Bool := false
  verbose : Bool := false
  ascii : Bool := false
  unicode : Bool := false
  template : Bool := false
deriving DecidableEq, Repr

namespace Flags

/-- The flags set in either. -/
def union (a b : Flags) : Flags :=
  ⟨a.ignoreCase || b.ignoreCase, a.multiline || b.multiline, a.dotAll || b.dotAll,
    a.verbose || b.verbose, a.ascii || b.ascii, a.unicode || b.unicode, a.template || b.template⟩

/-- The flags set in the first and not in the second. -/
def minus (a b : Flags) : Flags :=
  ⟨a.ignoreCase && !b.ignoreCase, a.multiline && !b.multiline, a.dotAll && !b.dotAll,
    a.verbose && !b.verbose, a.ascii && !b.ascii, a.unicode && !b.unicode,
    a.template && !b.template⟩

/-- Whether no flag is set. -/
def isEmpty (a : Flags) : Bool := a == {}

/-- The flags inside a group that adds some and removes some. Choosing how characters are
classified replaces the earlier choice. -/
def within (outer add remove : Flags) : Flags :=
  let base :=
    if add.ascii || add.unicode then { outer with ascii := false, unicode := false } else outer
  (base.union add).minus remove

end Flags

/-- A class of characters with a letter of its own. -/
inductive Category where
  | digit
  | space
  | word
deriving DecidableEq, Repr

/-- A member of a character set. -/
inductive Member where
  | char (code : Nat)
  | range (low high : Nat)
  | category (kind : Category) (negated : Bool)
deriving DecidableEq, Repr

/-- A condition on a place in the text. -/
inductive Anchor where
  | lineStart
  | lineEnd
  | textStart
  | textEnd
  | boundary (negated : Bool)
deriving DecidableEq, Repr

/-- How a repetition chooses its count: the most it can, the fewest, or the most with no second
thoughts. -/
inductive Greed where
  | greedy
  | reluctant
  | possessive
deriving DecidableEq, Repr

/-- An item of a written pattern. -/
inductive Item where
  | char (code : Nat)
  | notChar (code : Nat)
  | any
  | set (negated : Bool) (members : List Member)
  | anchor (a : Anchor)
  | backref (group : Nat) (width : Nat × Nat)
  | group (index : Option Nat) (add remove : Flags) (body : List Item)
  | atomic (body : List Item)
  | look (behind negated : Bool) (body : List Item)
  | choice (branches : List (List Item))
  | conditional (group : Nat) (yes : List Item) (no : Option (List Item))
  | repeated (greed : Greed) (low : Nat) (high : Option Nat) (body : List Item)

namespace Item

/-- Whether the item is a plain one, equal to another. -/
def sameAtom : Item → Item → Bool
  | char a, char b => a == b
  | notChar a, notChar b => a == b
  | any, any => true
  | set m xs, set n ys => m == n && xs == ys
  | anchor a, anchor b => a == b
  | backref a _, backref b _ => a == b
  | _, _ => false

/-- A count of repetitions that stands for "without end". It is also the greatest width told apart
from greater ones. -/
def endless : Nat := 4294967295

mutual

/-- The least and the greatest number of characters an item matches. -/
def width : Item → Nat × Nat
  | char _ | notChar _ | any | set _ _ => (1, 1)
  | anchor _ => (0, 0)
  | backref _ w => w
  | group _ _ _ body => widthOfAll body
  | atomic body => widthOfAll body
  | look _ _ _ => (0, 0)
  | choice branches => widthOfChoice branches
  | conditional _ yes no =>
    let (l, h) := widthOfAll yes
    match no with
    | some other =>
      let (l', h') := widthOfAll other
      (min l l', max h h')
    | none => (0, h)
  | repeated _ low high body =>
    let (l, h) := widthOfAll body
    (l * low, h * high.getD endless)

/-- The width of a sequence. The least one stays below the count that means "without end", so a
width beyond it is never taken for a fixed one. -/
def widthOfAll (items : List Item) : Nat × Nat :=
  let (l, h) := sumOfWidths items
  (min l (endless - 1), min h endless)

/-- The sum of widths. -/
def sumOfWidths : List Item → Nat × Nat
  | [] => (0, 0)
  | item :: rest =>
    let (l, h) := item.width
    let (l', h') := sumOfWidths rest
    (l + l', h + h')

/-- The width of the narrowest and of the widest branch. -/
def widthOfChoice : List (List Item) → Nat × Nat
  | [] => (endless - 1, 0)
  | branch :: rest =>
    let (l, h) := widthOfAll branch
    let (l', h') := widthOfChoice rest
    (min l l', max h h')

end

end Item

end FieldRules.Pattern
