import FieldRules.Pattern.Node

/-!
# Where a match may start

A pattern that must match some character often tells which one comes first: a literal, one of
several literals, or a member of a set. Only places with such a character are tried then.

The first character is judged without the flags of the groups around it: a set is taken with the
classes of the whole pattern. So a group that narrows the classes to ASCII does not make a match
start at a character that its set would accept only then.
-/

set_option autoImplicit false

namespace FieldRules.Pattern

mutual

/-- The condition on the first character of an item, groups being no more than their contents;
`follow` is that of what comes after it. -/
def Item.firstTest (flags : Flags) (follow : Option CharTest) : Item → Option CharTest
  | .group _ add remove body => firstTestOfAll (flags.within add remove) follow body
  | item => item.test? flags

/-- The condition on the first character of a sequence. -/
def firstTestOfAll (flags : Flags) (follow : Option CharTest) : List Item → Option CharTest
  | [] => follow
  | item :: rest => item.firstTest flags (firstTestOfAll flags follow rest)

end

/-- Whether the member makes case matter at the start. -/
def Member.isCasedAtStart (casing : Casing) : Member → Bool
  | char code => casing.isCased code
  | member => member.isCased casing

/-- The literal with which a sequence begins, if case does not matter to it. -/
def firstLiteral? (flags : Flags) : List Item → Option Nat
  | .char code :: _ => if flags.casing.isCased code then none else some code
  | _ => none

mutual

/-- The characters with which an item that begins with a set or with alternatives may start; `whole`
are the flags of the whole pattern. -/
def Item.firstOf? (whole flags : Flags) : Item → Option (Char → Bool)
  | .group _ add remove body => firstOfAll? whole (flags.within add remove) body
  | .choice branches =>
    (branches.mapM (firstLiteral? flags)).map fun codes c => codes.contains c.toNat
  | .set negated members =>
    if members.any (Member.isCasedAtStart flags.casing) then none
    else some fun c => members.any (Member.accepts (!whole.unicode) c) != negated
  | _ => none

/-- The characters with which a sequence may start. -/
def firstOfAll? (whole flags : Flags) : List Item → Option (Char → Bool)
  | [] => none
  | item :: _ => item.firstOf? whole flags

end

/-- The characters with which a match of the pattern may start, where they are known. -/
def start? (flags : Flags) (items : List Item) : Option (Char → Bool) :=
  if (Item.widthOfAll items).1 = 0 then none
  else
    match (firstTestOfAll flags none items).bind CharTest.code? with
    | some code => some fun c => c.toNat == code
    | none => firstOfAll? flags flags items

end FieldRules.Pattern
