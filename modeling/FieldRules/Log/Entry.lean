import FieldRules.Call
import FieldRules.Log.Level
import FieldRules.Log.Record
import FieldRules.Log.Template
import FieldRules.Value.Order

/-!
# Log entries

An entry has a message, which may be a template, arguments for it, and named details. It is logged
here, or it is *foreign*: then it was logged by someone who knows nothing of records, and it has a
message only.

What is asked for is a method of a logger by its name. Most methods have a level of their own; `log`
is told the level first, which here has to be one of those with a name.

Both ways to log take some details for themselves. Here these are the names that the call itself
uses, which therefore cannot be details. A foreign entry has no other details at all than the few
that its call knows, and what is wrong with those is found only if the entry is to be written.
-/

set_option autoImplicit false

namespace FieldRules.Log

/-- An entry of a log. -/
structure Entry where
  logger : String
  level : String
  severity : Int
  message : Value
  args : List Value := []
  details : Record := []
  foreign : Bool := false
  /-- Whether it belongs to an exception if nothing else is said. -/
  exceptional : Bool := false

/-! ## What is asked for -/

/-- A call of a method of a logger. -/
structure Request where
  logger : Value
  method : String
  message : Value
  args : List Value := []
  details : Entries := []
  foreign : Bool := false

namespace Request

/-- The name of the logger; without one it is the root of all. -/
def loggerName (q : Request) : Except Fault String :=
  match q.logger with
  | .text s => .ok (if s.isEmpty then "root" else s)
  | v => if v.truthy then .error (.badCall "A logger name must be a string") else .ok "root"

/-- The kind of the logger with a name. -/
def loggerKind (q : Request) (logger : String) : String :=
  if !q.foreign then "BoundLogger" else if logger = "root" then "RootLogger" else "Logger"

/-- The parameters of a method with a level of its own. -/
def parameters (q : Request) (m : Method) : Parameters :=
  if q.foreign then
    { label := "Logger." ++ m.name
      required := ["self", "msg"]
      onlyByName := if m = .exception then ["exc_info"] else []
      openPositions := true
      openNames := true }
  else
    { label := "BoundLogger." ++ m.target.name
      required := ["self"]
      optional := ["event"]
      openPositions := true
      openNames := true }

/-- The parameters of the method that is told the level. -/
def leveledParameters (q : Request) : Parameters :=
  if q.foreign then
    { label := "Logger.log"
      required := ["self", "level", "msg"]
      openPositions := true
      openNames := true }
  else
    { label := "BoundLogger.log"
      required := ["self", "level"]
      optional := ["event"]
      openPositions := true
      openNames := true }

/-- The level that has a value for its severity. -/
def levelOf (v : Value) : Except Fault Level := do
  v.checkKey
  match Level.all.find? fun l => Value.sameKey v (.int l.severity) with
  | some l => return l
  | none => throw (.raised .key (← v.shown))

/-- The severity of a foreign entry, and the name that it goes by. -/
def severityOf (v : Value) : Except Fault (Int × String) := do
  let i ← match v with
    | .int i => .ok i
    | .bool b => .ok (if b then 1 else 0)
    | _ => .error (.badCall "level must be an integer")
  match Level.ofSeverity? i with
  | some l => return (i, l.name)
  | none => return (i, "level " ++ Text.toLower (← if 0 < i then v.display else .ok ""))

/-- The entry of a method that is told the level. -/
def leveledEntry (q : Request) (logger : String) (details : Record) : Except Fault Entry := do
  let bound ← q.leveledParameters.bind (.null :: q.message :: q.args) details
  let message := ((bound.get? "msg").orElse fun _ => bound.get? "event").getD .null
  let (severity, level) ←
    if q.foreign then severityOf q.message
    else do
      let l ← levelOf q.message
      pure ((l.severity : Int), l.name)
  return { logger, level, severity, message, args := q.args.drop 1, details := bound.others,
           foreign := q.foreign }

/-- The entry that is asked for. -/
def entry (q : Request) : Except Fault Entry := do
  let logger ← q.loggerName
  if q.method = "log" then
    let details ← Record.ofEntries q.details
    q.leveledEntry logger details
  else
    let some m := Method.ofName? q.method
      | throw (.noSuchMember (q.loggerKind logger) q.method)
    let details ← Record.ofEntries q.details
    let _ ← (q.parameters m).bind (.null :: q.message :: q.args) details
    return { logger, level := m.level.name, severity := m.level.severity, message := q.message,
             args := q.args, details, foreign := q.foreign, exceptional := m = .exception }

end Request

namespace Entry

/-! ## Entries that are logged here -/

/-- The parameters of what all methods call. -/
def sharedParameters : Parameters where
  label := "BoundLogger._proxy_to_logger"
  required := ["self", "method_name"]
  optional := ["event"]
  openPositions := true
  openNames := true

/-- Fails if details have names that the call uses. -/
def checkDetails (e : Entry) : Except Fault Unit := do
  let _ ← sharedParameters.bind (.null :: .null :: e.message :: e.args) e.details
  return

/-- The record that an entry begins with: its details, the arguments of its message and the message
itself. -/
def ownRecord (e : Entry) : Record :=
  let details :=
    if e.args.isEmpty then e.details else e.details.put "positional_args" (.tuple e.args)
  match e.message with
  | .null => details
  | message => details.put "event" message

/-! ## Foreign entries -/

/-- The parameters of what all foreign methods call once an entry is to be written. -/
def foreignSharedParameters : Parameters where
  label := "Logger._log"
  required := ["self", "level", "msg", "args"]
  optional := ["exc_info", "extra", "stack_info", "stacklevel"]

/-- The names that a foreign record uses itself. -/
def reservedNames : List String :=
  ["message", "asctime", "name", "msg", "args", "levelname", "levelno", "pathname", "filename",
    "module", "exc_info", "exc_text", "stack_info", "lineno", "funcName", "created", "msecs",
    "relativeCreated", "thread", "threadName", "processName", "process"]

/-- The refusal of an index, for the kind that was indexed. -/
def badIndex (source key : Value) : Fault :=
  match source with
  | .text _ => .badCall ("string indices must be integers, not '" ++ key.fullKindName ++ "'")
  | v => .badCall (v.kindName ++ " indices must be integers or slices, not " ++ key.fullKindName)

/-- Fails if there is no element at an index. -/
def checkIndex (source key : Value) (size : Nat) : Except Fault Unit :=
  let within (i : Int) : Except Fault Unit :=
    let label := match source with
      | .bytes _ => "index"
      | v => v.kindName ++ " index"
    if -(size : Int) ≤ i && i < size then .ok ()
    else .error (.raised .index (label ++ " out of range"))
  match key with
  | .int i => within i
  | .bool b => within (if b then 1 else 0)
  | key => .error (badIndex source key)

/-- Fails if further attributes of a foreign record are not given by name, or under a name that the
record uses itself. -/
def checkExtra (extra : Value) : Except Fault Unit :=
  match extra with
  | .null => .ok ()
  | extra => do
    let keys ← extra.elements
    for key in keys do
      key.checkKey
      match key with
      | .text name =>
        if reservedNames.contains name then
          throw (.raised .key (Text.quoted
            ("Attempt to overwrite " ++ Text.quoted name ++ " in LogRecord")))
      | _ => pure ()
      match extra with
      | .map _ => pure ()
      | source => checkIndex source key keys.length

/-- Fails if the level of the stack to be shown is no number. -/
def checkStackLevel (v : Value) : Except Fault Unit :=
  match v.worth? with
  | none =>
    .error (.badCall
      ("'>' not supported between instances of '" ++ v.fullKindName ++ "' and 'int'"))
  | some .nan => if v.isDecimal then .error .signallingNan else .ok ()
  | some .signalling => .error .signallingNan
  | some _ => .ok ()

/-- What is recorded of an exception. There never is one, so that only what looks like one is kept.
-/
def exceptionParts (v : Value) : Record :=
  if v.truthy then
    match v with
    | .tuple xs => [("exc_info", .tuple xs)]
    | _ => [("exc_info", .tuple [.null, .null, .null])]
  else []

/-- What a foreign entry that is to be written records beside its message. -/
def foreignParts (e : Entry) : Except Fault Record := do
  let details := if e.exceptional then e.details.putDefault "exc_info" (.bool true)
    else e.details
  let bound ← foreignSharedParameters.bind
    [.null, .null, e.message, .tuple e.args] details
  checkStackLevel ((bound.get? "stacklevel").getD (.int 1))
  checkExtra ((bound.get? "extra").getD .null)
  return exceptionParts ((bound.get? "exc_info").getD .null)

/-- The message of a foreign entry, with its places filled if there are arguments. -/
def foreignMessage (e : Entry) : Except Fault String := do
  let message ← e.message.display
  if e.args.isEmpty then return message
  else Template.filled message (Template.ofArguments e.args)

end Entry

end FieldRules.Log
