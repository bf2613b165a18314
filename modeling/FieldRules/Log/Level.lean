import FieldRules.Fault
import FieldRules.Text.Case

/-!
# Log levels

An entry is written if its level is not below the one that was configured. A level is configured by
name, in capitals or small letters; a name that is none means `INFO`. Two names are those of
something else than a level, and are refused.
-/

set_option autoImplicit false

namespace FieldRules.Log

/-- The level of an entry. -/
inductive Level where
  | debug
  | info
  | warning
  | error
  | critical
deriving DecidableEq, Repr

namespace Level

/-- The name of a level in a record. -/
def name : Level → String
  | debug => "debug"
  | info => "info"
  | warning => "warning"
  | error => "error"
  | critical => "critical"

/-- The severity of a level. -/
def severity : Level → Nat
  | debug => 10
  | info => 20
  | warning => 30
  | error => 40
  | critical => 50

/-- All levels. -/
def all : List Level := [debug, info, warning, error, critical]

/-- The level with a severity. -/
def ofSeverity? (severity : Int) : Option Level := all.find? fun l => (l.severity : Int) = severity

/-- How a standard line is laid out, which is no level. -/
def lineFormat : String := "%(levelname)s:%(name)s:%(message)s"

/-- How the styles of line layouts are shown, which are no level. -/
def stylesShown : String :=
  "\x7b'%': (<class 'logging.PercentStyle'>, '%(levelname)s:%(name)s:%(message)s'), " ++
    "'\x7b': (<class 'logging.StrFormatStyle'>, " ++
    "'\x7blevelname\x7d:\x7bname\x7d:\x7bmessage\x7d'), " ++
    "'$': (<class 'logging.StringTemplateStyle'>, " ++
    "'$\x7blevelname\x7d:$\x7bname\x7d:$\x7bmessage\x7d')\x7d"

/-- The severity that a configured name stands for. -/
def ofName (name : String) : Except Fault Nat :=
  match Text.toUpper name with
  | "NOTSET" => .ok 0
  | "DEBUG" => .ok 10
  | "WARNING" | "WARN" => .ok 30
  | "ERROR" => .ok 40
  | "CRITICAL" | "FATAL" => .ok 50
  | "BASIC_FORMAT" => .error (.raised .value ("Unknown level: '" ++ lineFormat ++ "'"))
  | "_STYLES" =>
    .error (.raised .type ("Level not an integer or a valid string: " ++ stylesShown))
  | _ => .ok 20

/-- The severity that is configured by a value, which has to be a name. -/
def ofValue (v : Value) : Except Fault Nat :=
  match v with
  | .text name => ofName name
  | .bytes _ => .error (.badCall "attribute name must be string, not 'bytes'")
  | v => .error (.noSuchMember v.fullKindName "upper")

end Level

/-- The ways to log an entry. Some differ in name only. -/
inductive Method where
  | debug
  | info
  | warning
  | warn
  | error
  | critical
  | fatal
  | exception
deriving DecidableEq, Repr

namespace Method

/-- The name of a method. -/
def name : Method → String
  | debug => "debug"
  | info => "info"
  | warning => "warning"
  | warn => "warn"
  | error => "error"
  | critical => "critical"
  | fatal => "fatal"
  | exception => "exception"

/-- All methods. -/
def all : List Method := [debug, info, warning, warn, error, critical, fatal, exception]

/-- The method with a name. -/
def ofName? (name : String) : Option Method := all.find? fun m => m.name == name

/-- The level of the entries of a method. -/
def level : Method → Level
  | debug => .debug
  | info => .info
  | warning | warn => .warning
  | error | exception => .error
  | critical | fatal => .critical

/-- The method that does the work of one that differs in name only. -/
def target : Method → Method
  | warn => warning
  | fatal => critical
  | m => m

end Method

end FieldRules.Log
