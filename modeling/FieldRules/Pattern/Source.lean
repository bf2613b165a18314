import FieldRules.Number.Numeral
import FieldRules.Pattern.Item
import FieldRules.Pattern.Problem
import FieldRules.Text.Identifier

/-!
# The source of a pattern

A pattern is read token by token, a token being a character or a backslash with the character after
it. One token is always held ready, so a pattern that ends in a lone backslash is found out as soon
as that backslash comes up, before the token in front of it is judged.

The reading state also holds what the text so far has fixed: the flags set for the whole pattern,
the groups opened and closed, and the references still to be checked at the end.
-/

set_option autoImplicit false

namespace FieldRules.Pattern

/-- A token of a pattern. -/
inductive Token where
  | plain (c : Char)
  | escaped (c : Char)
deriving DecidableEq, Repr

namespace Token

/-- The token as it is written. -/
def chars : Token → List Char
  | plain c => [c]
  | escaped c => ['\\', c]

/-- The token's text. -/
def text (t : Token) : String := String.ofList t.chars

end Token

/-- The state of reading. -/
structure Reading where
  /-- The token that is held ready. -/
  next : Option Token
  /-- The characters after it. -/
  rest : List Char
  /-- The place of the first of them. -/
  index : Nat
  /-- The length of the whole pattern. -/
  size : Nat
  /-- The flags set for the whole pattern. -/
  flags : Flags
  /-- The groups that have names. -/
  names : List (String × Nat) := []
  /-- The widths of the groups closed so far, the whole pattern being group zero. -/
  widths : Array (Option (Nat × Nat)) := #[none]
  /-- Inside a look-behind: the number of the first group that it may not refer to. -/
  lookbehindFrom : Option Nat := none
  /-- The groups that conditions name by number, and where. -/
  conditions : List (Nat × Nat) := []

/-- A step of reading. -/
abbrev Reader := StateT Reading (Except Rejection)

namespace Reader

/-- The place of the token held ready. -/
def place : Reader Nat := do
  let s ← get
  return s.index - (match s.next with | some t => t.chars.length | none => 0)

/-- Rejects the pattern for a problem `offset` characters before the token held ready. -/
def reject {α : Type} (problem : Problem) (offset : Nat := 0) : Reader α := do
  throw (.malformed problem (some ((← place) - offset)))

/-- Rejects the pattern for a problem at a place. -/
def rejectAt {α : Type} (problem : Problem) (place : Nat) : Reader α :=
  throw (.malformed problem (some place))

/-- Takes up the next token. -/
def advance : Reader Unit := do
  let s ← get
  match s.rest with
  | [] => set { s with next := none }
  | ['\\'] => throw (.malformed .endsInBackslash (some s.index))
  | '\\' :: c :: rest => set { s with next := some (.escaped c), rest, index := s.index + 2 }
  | c :: rest => set { s with next := some (.plain c), rest, index := s.index + 1 }

/-- The token held ready, which is used up. -/
def take : Reader (Option Token) := do
  let s ← get
  advance
  return s.next

/-- Uses up the given character if it is next. -/
def accept (c : Char) : Reader Bool := do
  if (← get).next = some (.plain c) then
    advance
    return true
  else return false

/-- Uses up at most `n` characters of a kind. -/
def takeUpTo (kind : Char → Bool) : Nat → Reader (List Char)
  | 0 => return []
  | n + 1 => do
    match (← get).next with
    | some (.plain c) =>
      if kind c then
        advance
        return c :: (← takeUpTo kind n)
      else return []
    | _ => return []

/-- A bound on the tokens left. -/
def remaining : Reader Nat := return (← get).size + 2

/-- Uses up all characters of a kind. -/
def takeAll (kind : Char → Bool) : Reader (List Char) := do takeUpTo kind (← remaining)

/-- Collects characters up to the closing one; `acc` holds those read so far, in reverse. -/
def collectUntil (closing : Char) (what : String) : Nat → List Char → Reader (List Char)
  | 0, acc => return acc.reverse
  | fuel + 1, acc => do
    match ← take with
    | none =>
      if acc.isEmpty then reject (.missingName what)
      else reject (.unterminatedName closing) acc.length
    | some t =>
      if t = .plain closing then
        if acc.isEmpty then reject (.missingName what) 1 else return acc.reverse
      else collectUntil closing what fuel (t.chars.reverse ++ acc)

/-- Reads a name up to its closing character. -/
def readUntil (closing : Char) (what : String) : Reader (List Char) := do
  collectUntil closing what (← remaining) []

/-- Skips a comment up to the end of its line. -/
def skipLine : Nat → Reader Unit
  | 0 => return ()
  | fuel + 1 => do
    match ← take with
    | none => return ()
    | some t => if t = .plain '\n' then return () else skipLine fuel

/-- Skips a comment group that started at `start`. -/
def skipComment (start : Nat) : Nat → Reader Unit
  | 0 => return ()
  | fuel + 1 => do
    if (← get).next.isNone then rejectAt .unterminatedComment start
    else if (← take) = some (.plain ')') then return ()
    else skipComment start fuel

/-! ## Groups -/

/-- Whether a group has been closed. -/
def isClosed (group : Nat) : Reader Bool := return ((← get).widths[group]?.join).isSome

/-- Rejects a reference, inside a look-behind, to a group that is open or lies in it. -/
def checkLookbehind (group : Nat) : Reader Unit := do
  match (← get).lookbehindFrom with
  | none => return ()
  | some first =>
    if !(← isClosed group) then reject .openGroup
    else if first ≤ group then reject .groupOfSameLookbehind
    else return ()

/-- Opens the next group. -/
def openGroup (name : Option (List Char)) : Reader Nat := do
  let s ← get
  let group := s.widths.size
  match name with
  | none => set { s with widths := s.widths.push none }
  | some cs =>
    let text := String.ofList cs
    match s.names.lookup text with
    | some earlier => reject (.redefinedGroup text group earlier) (cs.length + 1)
    | none =>
      set { s with widths := s.widths.push none, names := (text, group) :: s.names }
  return group

/-- Closes a group whose contents have been read. -/
def closeGroup (group : Nat) (body : List Item) : Reader Unit :=
  modify fun s => { s with widths := s.widths.setIfInBounds group (some (Item.widthOfAll body)) }

/-- Rejects a group name that is no identifier. -/
def checkGroupName (name : List Char) : Reader Unit := do
  if Text.isIdentifier name then return ()
  else reject (.badGroupName (String.ofList name)) (name.length + 1)

/-- A reference to a closed group. -/
def reference (group offset : Nat) : Reader Item := do
  match (← get).widths[group]?.join with
  | none => reject .openGroup offset
  | some w =>
    checkLookbehind group
    return .backref group w

end Reader

end FieldRules.Pattern
