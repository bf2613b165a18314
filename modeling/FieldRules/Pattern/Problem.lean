import FieldRules.Text.Quoted

/-!
# What can be wrong with a pattern

A pattern is rejected for one of these reasons, most of them at a position in its text. Some
rejections are of another kind: a repetition count beyond what any text could need, a clash between
the two ways of classifying characters, and a look-behind that steps back too far.
-/

set_option autoImplicit false

namespace FieldRules.Pattern

/-- A defect of a pattern's text. -/
inductive Problem where
  | endsInBackslash
  | incompleteEscape (escape : String)
  | badEscape (escape : String)
  | octalTooLarge (escape : String)
  | missingBrace
  | missingName (what : String)
  | unterminatedName (closing : Char)
  | undefinedCharacter (name : String)
  | openGroup
  | groupOfSameLookbehind
  | invalidReference (group : Nat)
  | unterminatedSet
  | badRange (low high : String)
  | reversedRepeat
  | nothingToRepeat
  | multipleRepeat
  | unexpectedEnd
  | badGroupName (name : String)
  | unknownGroupName (name : String)
  | badGroupNumber
  | redefinedGroup (name : String) (group earlier : Nat)
  | unknownExtension (text : String)
  | unterminatedComment
  | unterminatedGroup
  | unbalancedGroup
  | tooManyBranches
  | lateFlags
  | localeFlag
  | incompatibleFlags
  | unknownFlag
  | missingFlag
  | missingFlagEnd
  | missingFlagColon
  | globalFlagOn
  | globalFlagOff
  | classFlagOff
  | flagOnAndOff
  | variableLookbehind
  | templateRepeat (operator : String)
deriving DecidableEq, Repr

/-- The wording of a defect. -/
def Problem.message : Problem → String
  | endsInBackslash => "bad escape (end of pattern)"
  | incompleteEscape escape => "incomplete escape " ++ escape
  | badEscape escape => "bad escape " ++ escape
  | octalTooLarge escape => "octal escape value " ++ escape ++ " outside of range 0-0o377"
  | missingBrace => "missing \x7b"
  | missingName what => "missing " ++ what
  | unterminatedName closing => "missing " ++ closing.toString ++ ", unterminated name"
  | undefinedCharacter name => "undefined character name " ++ Text.quoted name
  | openGroup => "cannot refer to an open group"
  | groupOfSameLookbehind => "cannot refer to group defined in the same lookbehind subpattern"
  | invalidReference group => "invalid group reference " ++ toString group
  | unterminatedSet => "unterminated character set"
  | badRange low high => "bad character range " ++ low ++ "-" ++ high
  | reversedRepeat => "min repeat greater than max repeat"
  | nothingToRepeat => "nothing to repeat"
  | multipleRepeat => "multiple repeat"
  | unexpectedEnd => "unexpected end of pattern"
  | badGroupName name => "bad character in group name " ++ Text.quoted name
  | unknownGroupName name => "unknown group name " ++ Text.quoted name
  | badGroupNumber => "bad group number"
  | redefinedGroup name group earlier =>
    "redefinition of group name " ++ Text.quoted name ++ " as group " ++ toString group ++
      "; was group " ++ toString earlier
  | unknownExtension text => "unknown extension ?" ++ text
  | unterminatedComment => "missing ), unterminated comment"
  | unterminatedGroup => "missing ), unterminated subpattern"
  | unbalancedGroup => "unbalanced parenthesis"
  | tooManyBranches => "conditional backref with more than two branches"
  | lateFlags => "global flags not at the start of the expression"
  | localeFlag => "bad inline flags: cannot use 'L' flag with a str pattern"
  | incompatibleFlags => "bad inline flags: flags 'a', 'u' and 'L' are incompatible"
  | unknownFlag => "unknown flag"
  | missingFlag => "missing flag"
  | missingFlagEnd => "missing -, : or )"
  | missingFlagColon => "missing :"
  | globalFlagOn => "bad inline flags: cannot turn on global flag"
  | globalFlagOff => "bad inline flags: cannot turn off global flag"
  | classFlagOff => "bad inline flags: cannot turn off flags 'a', 'u' and 'L'"
  | flagOnAndOff => "bad inline flags: flag turned on and off"
  | variableLookbehind => "look-behind requires fixed-width pattern"
  | templateRepeat operator => "internal: unsupported template operator " ++ operator

/-- Why a pattern is rejected. -/
inductive Rejection where
  | malformed (problem : Problem) (position : Option Nat)
  | repetitionTooLarge
  | repetitionUnreadable (digits : Nat)
  | clashingFlags
  | farLookbehind
deriving DecidableEq, Repr

/-- Where a position lies in a text of several lines: the line, and the place in it, both from
one. -/
def lineAndColumn (cs : List Char) (position : Nat) : Nat × Nat :=
  let before := cs.take position
  let line := before.count '\n' + 1
  let column := match before.reverse.idxOf? '\n' with
    | some k => k + 1
    | none => position + 1
  (line, column)

/-- The wording of a defect together with its place in the pattern. -/
def Problem.located (problem : Problem) (pattern : String) : Option Nat → String
  | none => problem.message
  | some position =>
    let place := problem.message ++ " at position " ++ toString position
    if pattern.toList.contains '\n' then
      let (line, column) := lineAndColumn pattern.toList position
      place ++ " (line " ++ toString line ++ ", column " ++ toString column ++ ")"
    else place

end FieldRules.Pattern
