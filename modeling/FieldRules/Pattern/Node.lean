import FieldRules.Pattern.Accept
import FieldRules.Pattern.Problem

/-!
# Patterns as they are matched

The matched form of a pattern: flags have been worked into the conditions, a group is a pair of
marks around its contents, and a look-behind knows how far to step back.

A repetition of single characters is a `span`, any other one is `repeated`. What a sequence begins
with is known to the items before it: an alternative that begins with a plain condition on one
character is not entered where the condition fails, and a span in front of a literal is only cut
where that literal stands.

Some defects show only here: a look-behind whose width is not fixed or is too great, and a
repetition under the template flag.
-/

set_option autoImplicit false

namespace FieldRules.Pattern

/-- A pattern in its matched form. -/
inductive Node where
  | empty
  | never
  | one (accepts : Char → Bool)
  | anchor (holds : Array Char → Nat → Bool)
  | mark (slot : Nat)
  | seq (first second : Node)
  /-- Two alternatives, the first one only where the next character is accepted by `entry`. -/
  | alt (entry : Option (Char → Bool)) (first second : Node)
  | backref (group : Nat) (same : Char → Char → Bool)
  | atomic (body : Node)
  | look (back : Nat) (negated : Bool) (body : Node)
  | conditional (group : Nat) (yes no : Node)
  /-- Single characters, `before` being the literal that follows them, if one does. -/
  | span (greed : Greed) (low : Nat) (high : Option Nat) (unit : CharTest) (before : Option Nat)
  | repeated (greed : Greed) (low : Nat) (high : Option Nat) (body : Node)
deriving Inhabited

/-! ## Defects -/

/-- The name of a kind of repetition in the message on template patterns. -/
def Greed.operatorName : Greed → String
  | greedy => "MAX_REPEAT"
  | reluctant => "MIN_REPEAT"
  | possessive => "POSSESSIVE_REPEAT"

mutual

/-- Rejects an item that cannot be matched under some flags; the result is the farthest that a
look-behind in it steps back. -/
def Item.check (flags : Flags) : Item → Except Rejection Nat
  | .group _ _ _ body | .atomic body => checkAll flags body
  | .look behind _ body => do
    let (low, high) := if behind then Item.widthOfAll body else (0, 0)
    if low ≠ high then throw (.malformed .variableLookbehind none)
    return max low (← checkAll flags body)
  | .choice branches => checkChoice flags branches
  | .conditional _ yes no => do
    let back ← checkAll flags yes
    match no with
    | some other => return max back (← checkAll flags other)
    | none => return back
  | .repeated greed _ _ body =>
    if flags.template then .error (.malformed (.templateRepeat greed.operatorName) none)
    else checkAll flags body
  | _ => .ok 0

/-- Rejects a sequence. -/
def checkAll (flags : Flags) : List Item → Except Rejection Nat
  | [] => .ok 0
  | item :: rest => do
    let back ← item.check flags
    return max back (← checkAll flags rest)

/-- Rejects alternatives. -/
def checkChoice (flags : Flags) : List (List Item) → Except Rejection Nat
  | [] => .ok 0
  | branch :: rest => do
    let back ← checkAll flags branch
    return max back (← checkChoice flags rest)

end

/-- No look-behind may step back so far. -/
def backLimit : Nat := 0x80000000

/-! ## Matched forms -/

/-- Whether the character at a place is part of a word; there is none past the ends. -/
def wordAt (ascii : Bool) (text : Array Char) (pos : Nat) : Bool :=
  match text[pos]? with
  | some c => Category.word.accepts ascii c
  | none => false

/-- Whether the condition of an anchor holds at a place. An empty text has no word boundary and no
place without one. -/
def Anchor.holds (flags : Flags) (a : Anchor) (text : Array Char) (pos : Nat) : Bool :=
  match a with
  | .lineStart => pos = 0 || (flags.multiline && text[pos - 1]? = some '\n')
  | .lineEnd =>
    pos = text.size ||
      (text[pos]? = some '\n' && (flags.multiline || pos + 1 = text.size))
  | .textStart => pos = 0
  | .textEnd => pos = text.size
  | .boundary negated =>
    let before := pos != 0 && wordAt (!flags.unicode) text (pos - 1)
    let after := wordAt (!flags.unicode) text pos
    !text.isEmpty && ((before != after) != negated)

namespace CharTest

/-- The literal that a condition stands for. -/
def code? (test : CharTest) : Option Nat :=
  match test.kind with
  | .literal code => some code
  | _ => none

/-- The condition under which an alternative that begins so is entered. -/
def entry? (test : CharTest) : Option (Char → Bool) :=
  match test.kind with
  | .literal _ | .set => some test.accepts
  | .folded | .other => none

end CharTest

/-- The matched form of part of a pattern, with the condition that its first character is put to at
once, if it begins with one. -/
structure Part where
  node : Node
  front : Option CharTest

mutual

/-- The condition on one character that an item comes down to, groups without a number being no
more than their contents. -/
def Item.unit? (flags : Flags) : Item → Option CharTest
  | .group none add remove body => unitOfAll? (flags.within add remove) body
  | item => item.test? flags

/-- The condition on one character that a sequence comes down to. -/
def unitOfAll? (flags : Flags) : List Item → Option CharTest
  | [item] => item.unit? flags
  | _ => none

end

mutual

/-- The matched form of an item under some flags, `follow` being the condition that comes right
after it. -/
def Item.part (flags : Flags) (follow : Option CharTest) : Item → Part
  | .anchor a => ⟨.anchor (a.holds flags), none⟩
  | .backref group _ => ⟨.backref group (sameCharacter flags), none⟩
  | .group (some i) add remove body =>
    let inner := (partOfAll (flags.within add remove) none body).node
    ⟨.seq (.mark (2 * i)) (.seq inner (.mark (2 * i + 1))), none⟩
  | .group none add remove body => partOfAll (flags.within add remove) follow body
  | .atomic body => ⟨.atomic (partOfAll flags none body).node, none⟩
  | .look behind negated body =>
    let back := if behind then (Item.widthOfAll body).1 else 0
    ⟨.look back negated (partOfAll flags none body).node, none⟩
  | .choice branches => ⟨nodeOfChoice flags branches, none⟩
  | .conditional group yes none =>
    ⟨.conditional group (partOfAll flags follow yes).node .empty, none⟩
  | .conditional group yes (some no) =>
    let afterYes := if no.isEmpty then follow else none
    ⟨.conditional group (partOfAll flags afterYes yes).node (partOfAll flags follow no).node, none⟩
  | .repeated greed low high body =>
    match unitOfAll? flags body with
    | some unit => ⟨.span greed low high unit (follow.bind CharTest.code?), none⟩
    | none => ⟨.repeated greed low high (partOfAll flags none body).node, none⟩
  | item =>
    match item.test? flags with
    | some test => ⟨.one test.accepts, some test⟩
    | none => ⟨.never, none⟩

/-- The matched form of a sequence. -/
def partOfAll (flags : Flags) (follow : Option CharTest) : List Item → Part
  | [] => ⟨.empty, follow⟩
  | item :: rest =>
    let others := partOfAll flags follow rest
    let first := item.part flags others.front
    match rest with
    | [] => first
    | _ => ⟨.seq first.node others.node, first.front⟩

/-- The matched form of alternatives. -/
def nodeOfChoice (flags : Flags) : List (List Item) → Node
  | [] => .never
  | branch :: rest =>
    let first := partOfAll flags none branch
    .alt (first.front.bind CharTest.entry?) first.node (nodeOfChoice flags rest)

end

/-- The matched form of a whole pattern. -/
def nodeOf (flags : Flags) (items : List Item) : Except Rejection Node := do
  if backLimit ≤ (← checkAll flags items) then throw .farLookbehind
  return (partOfAll flags none items).node

end FieldRules.Pattern
