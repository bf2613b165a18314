import FieldRules.Log.Console
import FieldRules.Log.Entry
import FieldRules.Settings

/-!
# Logging

A log turns entries into records, one for each entry whose level is not below the configured one.
The details of the *context*, which lasts until it is cleared, belong to every entry that does not
have others under the same names.

The record of an entry that is logged here is made even if it is not written, so that a mistake in
it is always reported. What is wrong with the record of a foreign entry is never reported but costs
the record.
-/

set_option autoImplicit false

namespace FieldRules.Log

/-- How a log is configured. -/
structure Config where
  threshold : Nat
  json : Bool
deriving DecidableEq, Repr

namespace Config

/-- The configuration with a level, and with records in JSON if that counts as true. -/
def make (level : Value := .text "INFO") (json : Value := .bool false) : Except Fault Config := do
  return { threshold := ← Level.ofValue level, json := json.truthy }

/-- The parameters of a configuration. -/
def parameters : Parameters where
  label := "configure_logging"
  optional := ["level", "json_logs"]

/-- The configuration that values ask for in order. -/
def ofArguments (args : List Value) : Except Fault Config := do
  let bound ← parameters.bind args []
  make ((bound.get? "level").getD (.text "INFO")) ((bound.get? "json_logs").getD (.bool false))

/-- The configuration that settings ask for. -/
def ofSettings (settings : Settings) : Except Fault Config :=
  make (.text settings.logLevel) (.bool settings.logJson)

end Config

/-- What can be done to a log. -/
inductive Action where
  | bind (details : Entries)
  | clear
  | log (request : Request)

/-- What is written for an entry: a line for the console, or a record. -/
inductive Line where
  | console (text : String)
  | record (r : Record)

/-! ## From the details to the record -/

namespace Record

/-- What a value fills a message with. A single mapping that is not empty gives its entries by name;
what has no elements cannot fill anything. -/
def filling (v : Value) : Except Fault Value :=
  let chosen (first : Value) : Value :=
    match first with
    | .map (e :: entries) => .map (e :: entries)
    | _ => v
  match v with
  | .list [first] | .tuple [first] => .ok (chosen first)
  | .map [(k, first)] =>
    if Value.sameKey k (.int 0) then .ok (chosen first) else .error (.raised .key "0")
  | .list _ | .tuple _ | .map _ | .text _ | .bytes _ => .ok v
  | v => .error (.badCall ("object of type '" ++ v.fullKindName ++ "' has no len()"))

/-- A message with its places filled; only a text and bytes have places. -/
def fillMessage (message args : Value) : Except Fault Value :=
  match message with
  | .text template => (Template.filled template args).map .text
  | .bytes template => Template.filledBytes template args
  | v => .error (.badCall ("unsupported operand type(s) for %=: '" ++ v.fullKindName ++ "' and '" ++
      args.fullKindName ++ "'"))

/-- The record with the places of its message filled, and without the arguments for it. Arguments
that are null stay. -/
def filled (r : Record) : Except Fault Record :=
  match r.lookup "positional_args" with
  | none | some .null => .ok r
  | some args =>
    if args.truthy then do
      let args ← filling args
      match r.lookup "event" with
      | some message =>
        return (r.put "event" (← fillMessage message args)).without ["positional_args"]
      | none => throw (.raised .key "'event'")
    else .ok (r.without ["positional_args"])

/-- The record under a level and a logger. -/
def identified (r : Record) (level logger : String) : Record :=
  (r.put "level" (.text level)).put "logger" (.text logger)

/-- The record as it is shown: without the names that only steer logging, with the name of the
library, and with its inputs blanked out. -/
def finished (r : Record) : Record :=
  (((r.without ["timestamp", "stack_info", "_record", "_from_structlog", "_color_message"]).decoded
    ).putDefault "library" (.text "ruleforge")).redact

/-- What is written of a record. A record that has no form is lost. -/
def lines (r : Record) (json : Bool) : List Line :=
  if json then
    match r.json? with
    | some form => [.record form]
    | none => []
  else ((Console.lines? r).getD []).map .console

end Record

namespace Entry

/-- The record of an entry that is logged here, in a context. -/
def record (context : Record) (e : Entry) : Except Fault Record := do
  e.checkDetails
  let r := e.ownRecord.underlay context
  match r.lookup "_record" with
  | none | some .null =>
    let filled ← (r.identified e.level e.logger).filled
    return filled.finished.without ["exc_info"]
  | some v => throw (.noSuchMember v.fullKindName "name")

/-- The record of a foreign entry, in a context. -/
def foreignRecord (context : Record) (e : Entry) (parts : Record) : Except Fault Record := do
  let start : Record := ("event", .text (← e.foreignMessage)) :: parts
  let filled ← ((start.underlay context).identified e.level e.logger).filled
  return filled.finished

/-- Whether an entry is to be written. One without any severity never is. -/
def isShown (config : Config) (e : Entry) : Bool :=
  0 < e.severity && (config.threshold : Int) ≤ e.severity

/-- What is written for a foreign entry. -/
def writeForeign (config : Config) (context : Record) (e : Entry) : Except Fault (List Line) := do
  if e.isShown config then
    let parts ← e.foreignParts
    match e.foreignRecord context parts with
    | .ok r => return r.lines config.json
    | .error _ => return []
  else return []

/-- What is written for an entry. -/
def write (config : Config) (context : Record) (e : Entry) : Except Fault (List Line) :=
  if e.foreign then e.writeForeign config context
  else do
    let r ← e.record context
    return if e.isShown config then r.lines config.json else []

end Entry

/-- Does something to a log: what is written, and the context afterwards. -/
def step (config : Config) (context : Record) : Action → Except Fault (List Line × Record)
  | .bind details => do
    let details ← Record.ofEntries details
    return ([], context.overlay details)
  | .clear => .ok ([], [])
  | .log request => do
    let entry ← request.entry
    let written ← entry.write config context
    return (written, context)

/-- Does things to a log in order: what is written for each of them. -/
def run (config : Config) : (context : Record) → List Action → Except Fault (List (List Line))
  | _, [] => .ok []
  | context, action :: rest => do
    let (written, context) ← step config context action
    let others ← run config context rest
    return written :: others

end FieldRules.Log
