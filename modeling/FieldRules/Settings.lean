import FieldRules.Failure
import FieldRules.Text.Case
import FieldRules.Text.Split

/-!
# Settings

What the environment decides: how much is logged and in which form, whether validators trim by
default, and how deeply schemas may be nested. Variables are recognised whatever the case of their
names. A variable that cannot be read is a problem under the name of its setting, and all problems
are reported together, in the order of the settings.
-/

set_option autoImplicit false

namespace FieldRules

/-- The settings, with what holds when the environment says nothing. -/
structure Settings where
  logLevel : String := "INFO"
  logJson : Bool := false
  autoTrim : Bool := false
  maxDepth : Int := 64
deriving DecidableEq, Repr

namespace Settings

/-! ## Reading booleans and whole numbers -/

/-- The boolean that a word stands for. -/
def readBool? (s : String) : Option Bool :=
  match String.ofList (s.toList.map Char.toLower) with
  | "1" | "t" | "y" | "on" | "yes" | "true" => some true
  | "0" | "f" | "n" | "no" | "off" | "false" => some false
  | _ => none

/-- The characters without leading zeros. Underscores among the zeros are dropped with them, and so
is everything before a minus that follows; the last of them is kept where no digit comes after it.
None if the characters do not begin as a numeral does. -/
def withoutZeros? (cs : List Char) : Option (List Char) :=
  match cs with
  | '0' :: rest =>
    let isFiller (c : Char) : Bool := c == '0' || c == '_'
    let last := (rest.takeWhile isFiller).getLastD '0'
    match rest.dropWhile isFiller with
    | '.' :: after => some (last :: '.' :: after)
    | c :: after => if Text.isAsciiDigit c || c == '-' then some (c :: after) else none
    | [] => some [last]
  | c :: rest => if Text.isAsciiDigit c then some (c :: rest) else none
  | [] => none

/-- The characters without a fraction that consists of zeros. -/
def withoutFraction (cs : List Char) : List Char :=
  match Text.cutFirst? '.' cs with
  | some (whole, fraction) =>
    if !fraction.isEmpty && fraction.all (· == '0') then whole else cs
  | none => cs

/-- Whether two underscores stand side by side. -/
def hasDoubleUnderscore : List Char → Bool
  | '_' :: '_' :: _ => true
  | _ :: rest => hasDoubleUnderscore rest
  | [] => false

/-- The characters without underscores, if these only separate others. -/
def withoutUnderscores (cs : List Char) : List Char :=
  if cs.head? = some '_' || cs.getLast? = some '_' || hasDoubleUnderscore cs then cs
  else cs.filter (· != '_')

/-- The digits of a numeral without sign, which has no leading zeros. -/
def plainDigits? (cs : List Char) : Option (List Char) :=
  match cs with
  | ['0'] => some cs
  | c :: _ => if c != '0' && cs.all Text.isAsciiDigit then some cs else none
  | [] => none

/-- Why a text is not the text of a whole number. -/
inductive WholeProblem where
  | unreadable
  | tooLong
deriving DecidableEq, Repr

/-- The wording of the problem. -/
def WholeProblem.message : WholeProblem → String
  | unreadable => "Input should be a valid integer, unable to parse string as an integer"
  | tooLong => "Unable to parse input string as an integer, exceeded maximum size"

/-- Reads a numeral in its strictest form: a minus, perhaps, and digits. A numeral with too many
digits is too long whatever follows it. -/
def readPlain (cs : List Char) : Except WholeProblem Int :=
  let (negative, body) := match cs with
    | '-' :: rest => (true, rest)
    | _ => (false, cs)
  let digits := body.takeWhile Text.isAsciiDigit
  if body.head? != some '0' && Numeral.digitLimit < digits.length then .error .tooLong
  else match plainDigits? body with
    | some ds => .ok (Binary64.signed negative (Numeral.asciiValue ds))
    | none => .error .unreadable

/-- The strictest form of a numeral without sign that may have leading zeros, a fraction of zeros
and single underscores between digits. -/
def plainForm? (cs : List Char) : Option (List Char) :=
  (withoutZeros? cs).map fun rest => withoutUnderscores (withoutFraction rest)

/-- The strictest form of a numeral, which may have a sign in front: a plus is dropped, a minus is
kept. Nothing but the numeral may follow a sign. -/
def signedForm? : List Char → Option (List Char)
  | '+' :: '-' :: _ => none
  | '+' :: rest => plainForm? rest
  | '-' :: rest => (plainForm? rest).map ('-' :: ·)
  | cs => plainForm? cs

/-- Reads a whole number. Other than in its strictest form it may be surrounded by white space and
have a plus, leading zeros, single underscores between digits and a fraction of zeros. -/
def readWhole (s : String) : Except WholeProblem Int :=
  match readPlain s.toList with
  | .error .unreadable =>
    match signedForm? (Text.stripWhiteSpace s.toList) with
    | some form => (readPlain form).mapError fun _ => .unreadable
    | none => .error .unreadable
  | answer => answer

/-! ## Reading the environment -/

/-- The value of the variable of a setting; of two spellings the later one counts. -/
def variableValue? (environment : List (String × String)) (setting : String) : Option String :=
  let name := Text.toLower ("RULEFORGE_" ++ setting)
  (environment.reverse.find? fun e => Text.toLower e.1 == name).map (·.2)

/-- Reads a setting: its default if there is no variable for it. -/
def readSetting {α : Type} (environment : List (String × String)) (setting : String) (default : α)
    (read : String → Except String α) : Except Problem α :=
  match variableValue? environment setting with
  | none => .ok default
  | some s => (read s).mapError fun message => ⟨[setting], message⟩

/-- The problem of a setting, if it has one. -/
def problemOf {α : Type} : Except Problem α → List Problem
  | .ok _ => []
  | .error problem => [problem]

/-- Reads a boolean setting. -/
def readFlag (s : String) : Except String Bool :=
  match readBool? s with
  | some b => .ok b
  | none => .error "Input should be a valid boolean, unable to interpret input"

/-- Reads the settings from the variables of an environment. -/
def ofEnvironment (environment : List (String × String)) : Except (List Problem) Settings :=
  let logLevel := (variableValue? environment "LOG_LEVEL").getD "INFO"
  let logJson := readSetting environment "LOG_JSON" false readFlag
  let autoTrim := readSetting environment "DEFAULT_AUTO_TRIM" false readFlag
  let maxDepth := readSetting environment "MAX_SCHEMA_DEPTH" 64 fun s =>
    (readWhole s).mapError WholeProblem.message
  match logJson, autoTrim, maxDepth with
  | .ok logJson, .ok autoTrim, .ok maxDepth => .ok { logLevel, logJson, autoTrim, maxDepth }
  | _, _, _ => .error (problemOf logJson ++ problemOf autoTrim ++ problemOf maxDepth)

example : (readWhole " +0_08.00 ").toOption = some 8 := by decide +kernel
example : (readWhole "8.5").toOption = none := by decide +kernel
example : (readWhole "-01").toOption = some (-1) := by decide +kernel
example : (readWhole "0_-3").toOption = some (-3) := by decide +kernel
example : (readWhole "5.").toOption = none := by decide +kernel

end Settings

end FieldRules
