import FieldRules.Pattern
import FieldRules.Rule.Recipe

/-!
# Arguments of rules

How the built-in rules read their arguments. Numbers may be given as numerals, lengths are whole
numbers that are not negative, and what cannot be read is refused by a message that shows it.
-/

set_option autoImplicit false

namespace FieldRules.Arguments

/-- An objection that shows a value. -/
def refuse {α : Type} (v : Value) (refusal : String → Refusal) : Except Fault α := do
  let shown ← v.shown
  throw (.refused (refusal shown))

/-- A number. -/
def number (argument : String) (v : Value) : Except Fault Number :=
  match v.number? with
  | some n => .ok n
  | none => refuse v (.notANumber argument)

/-- A length. -/
def length (argument : String) (v : Value) : Except Fault Nat :=
  match v.number? with
  | some n =>
    if n.isWhole && 0 ≤ n.truncate then .ok n.truncate.toNat else refuse v (.notALength argument)
  | none => refuse v (.notALength argument)

/-- The text of a number. -/
def numberText (n : Number) : Except Fault String :=
  match n.text? with
  | some s => .ok s
  | none => .error .numberTooLong

/-- Two bounds of which the first may not be the greater one. -/
def numberBounds (low high : Value) : Except Fault (Number × Number) := do
  let low ← number "min_number" low
  let high ← number "max_number" high
  if low.compare high = .gt then
    let lowText ← numberText low
    let highText ← numberText high
    throw (.refused (.reversedBounds "min_number" lowText "max_number" highText))
  return (low, high)

/-- Two lengths of which the first may not be the greater one. -/
def lengthBounds (low high : Value) : Except Fault (Nat × Nat) := do
  let low ← length "min_length" low
  let high ← length "max_length" high
  if high < low then
    throw (.refused (.reversedBounds "min_length" (← numberText (.whole low))
      "max_length" (← numberText (.whole high))))
  return (low, high)

/-- A text with something in it. -/
def fullText (v : Value) (refusal : String → Refusal) : Except Fault String :=
  match v with
  | .text s => if s.isEmpty then refuse v refusal else .ok s
  | _ => refuse v refusal

/-- The plain texts of primitive values, each with its value. The values are put in from the last to
the first, each in the place of the one that reads the same. -/
def options (vs : List Value) : Except Fault (List (String × Value)) := do
  if vs.isEmpty then throw (.refused .noOptions)
  if !vs.all Value.isPrimitive then throw (.refused .compositeOption)
  let named ← vs.reverse.mapM fun v => return (← v.plainText, v)
  return named.foldl (fun table e => putNamed e.1 e.2 table) []

/-- The flags that letters stand for, if all of them do. -/
def patternFlags? : List Char → Option Pattern.Flags
  | [] => some {}
  | c :: rest => do
    let flag : Pattern.Flags ← match c with
      | 'i' => some { ignoreCase := true }
      | 'm' => some { multiline := true }
      | 's' => some { dotAll := true }
      | _ => none
    let others ← patternFlags? rest
    some (flag.union others)

/-- A pattern with its flags. -/
def pattern (source flags : Value) : Except Fault Pattern := do
  let .text s := source | throw (.refused (.notAPattern source.kindName))
  let .text letters := flags | refuse flags .badFlags
  let some set := patternFlags? letters.toList | refuse flags .badFlags
  match Pattern.ofSource set s with
  | .ok p => return p
  | .error (.malformed problem place) =>
    throw (.refused (.badPattern (Text.quoted s) (problem.located s place)))
  | .error .repetitionTooLarge => throw .repetitionTooLarge
  | .error (.repetitionUnreadable digits) => throw (.refused (.repetitionUnreadable digits))
  | .error .clashingFlags => throw (.refused .clashingFlags)
  | .error .farLookbehind => throw .farLookbehind

end FieldRules.Arguments
