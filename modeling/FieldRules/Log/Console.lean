import FieldRules.Log.Record
import FieldRules.Text.Split

/-!
# Records on the console

On the console a record is a line: its level, its message, its logger and then its other values
under their names. A message or a name may contain line breaks of its own; other texts with anything
in them that could be misread are quoted. Under the line stand what was recorded of the stack and of
an exception, if anything was, which then have to be texts.

A record is lost if one of its values has no text.
-/

set_option autoImplicit false

namespace FieldRules.Log.Console

/-- The characters that make a text be quoted. -/
def ambiguous : List Char := [' ', '\t', '=', '\r', '\n', '"', '\'']

/-- A value after its name. -/
def valueText? : Value → Option String
  | .text s => some (if s.toList.any ambiguous.contains then Text.quoted s else s)
  | v => v.shown?

/-- The names of values that have places of their own. -/
def placed : List String :=
  ["level", "event", "logger", "logger_name", "stack", "exception", "exc_info"]

/-- The text of a value that has a place of its own, if the record has it. -/
def column? (r : Record) (name before after : String) : Option (List String) :=
  match r.lookup name with
  | none => some []
  | some v => v.display?.map fun s => [before ++ s ++ after]

/-- The line of a record. -/
def line? (r : Record) : Option String := do
  let level ← column? r "level" "[" "]"
  let event ← column? r "event" "" ""
  let logger ← column? r "logger" "[" "]"
  let loggerName ← column? r "logger_name" "[" "]"
  let others ← (r.without placed).mapM fun (name, v) => return name ++ "=" ++ (← valueText? v)
  return String.intercalate " " (level ++ event ++ logger ++ loggerName ++ others)

/-- What is written under the line of a record for a name. -/
def below? (r : Record) (name : String) : Option (Option String) :=
  match r.lookup name with
  | none => some none
  | some .null => some none
  | some (.text s) => some (some s)
  | some _ => none

/-- The line between a stack and an exception. -/
def separator : String := String.ofList (List.replicate 79 '=')

/-- The text of a record. -/
def text? (r : Record) : Option String := do
  let line ← line? r
  let stack ← below? r "stack"
  let exception ← below? r "exception"
  let raised := ((r.lookup "exc_info").map Value.truthy).getD false
  let stackText := match stack with
    | none => ""
    | some s =>
      "\n" ++ s ++ (if raised || exception.isSome then "\n\n" ++ separator ++ "\n" else "")
  return line ++ stackText ++ (match exception with
    | none => ""
    | some s => "\n" ++ s)

/-- The lines of a record that are not blank. -/
def lines? (r : Record) : Option (List String) :=
  (text? r).map fun s =>
    ((Text.lines s.toList).filter fun line => !line.all Text.isBlank).map String.ofList

end FieldRules.Log.Console
