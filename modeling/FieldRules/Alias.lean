import FieldRules.Failure
import FieldRules.Spec

/-!
# Aliases

An alias gives a name to a rule spec and, optionally, an error code that stands for every error of
those rules. It is defined by a mapping, which is read strictly: a part of the wrong kind, a missing
one and one that does not belong there are all reported, in the order name, rules, error and then as
they stand in the mapping.

That the spec itself is well formed is checked when the definition is parsed; whether its rules
exist is not known before the alias is used.
-/

set_option autoImplicit false

namespace FieldRules

/-- A named rule spec with an optional error code of its own. -/
structure AliasDefinition where
  name : String
  rules : Value
  error : Option String := none

namespace AliasDefinition

/-- Problems of the parts of a definition are collected; a part without any is read. -/
abbrev Part (α : Type) := Except (List String) α

/-- Reads a text that may not be empty. Bytes are taken as the text that they encode. -/
def readText (v : Value) : Part String :=
  let nonempty (s : String) : Part String :=
    if s.isEmpty then .error ["String should have at least 1 character"] else .ok s
  match v with
  | .text s => nonempty s
  | .bytes bs =>
    match String.fromUTF8? ⟨bs.toArray⟩ with
    | some s => nonempty s
    | none =>
      .error ["Input should be a valid string, unable to parse raw data as a unicode string"]
  | _ => .error ["Input should be a valid string"]

/-- Reads a part that must be there. -/
def readRequired {α : Type} (entries : Entries) (key : String) (read : Value → Part α) : Part α :=
  match entries.get? key with
  | some v => read v
  | none => .error ["Field required"]

/-- Reads the error code, which may be absent or null. -/
def readError (entries : Entries) : Part (Option String) :=
  match entries.get? "error" with
  | none => .ok none
  | some .null => .ok none
  | some v => (readText v).map some

/-- Reads the rules, which only may not be empty. -/
def readRules (v : Value) : Part Value :=
  let isEmpty := match v with
    | .null => true
    | .text s => s.isEmpty
    | .list xs => xs.isEmpty
    | .tuple xs => xs.isEmpty
    | .map es => es.isEmpty
    | _ => false
  if isEmpty then .error ["Value error, rules must not be empty"] else .ok v

/-- The problems of a part, under its key. -/
def problemsOf {α : Type} (key : String) : Part α → List Problem
  | .ok _ => []
  | .error messages => messages.map fun message => ⟨[key], message⟩

/-- How a key that is no text is named in a problem. -/
def keyText (key : Value) : String :=
  match key with
  | .text s => s
  | .bool b => if b then "1" else "0"
  | key => key.shown?.getD ("<unprintable " ++ key.kindName ++ " object>")

/-- The problems of the entries that do not belong to a definition. -/
def extraProblems (entries : Entries) : List Problem :=
  entries.filterMap fun (key, _) =>
    match key with
    | .text s =>
      if s = "name" || s = "rules" || s = "error" then none
      else some ⟨[s], "Extra inputs are not permitted"⟩
    | key => some ⟨[keyText key], "Keys should be strings"⟩

/-- Reads a definition. -/
def ofValue (v : Value) : Except (List Problem) AliasDefinition :=
  match v with
  | .map entries =>
    let name := readRequired entries "name" readText
    let rules := readRequired entries "rules" readRules
    let error := readError entries
    match name, rules, error, extraProblems entries with
    | .ok name, .ok rules, .ok error, [] => .ok { name, rules, error }
    | _, _, _, extra =>
      .error
        (problemsOf "name" name ++ problemsOf "rules" rules ++ problemsOf "error" error ++ extra)
  | _ => .error [⟨["alias"], "Input should be a valid dictionary or instance of AliasDefinition"⟩]

/-- Reads a definition that is given part by part, which only a mapping with texts for keys can be.
-/
def ofParts (v : Value) : Except Failure AliasDefinition :=
  match v with
  | .map entries =>
    if entries.all fun e => match e.1 with | .text _ => true | _ => false then
      (ofValue v).mapError .invalid
    else .error (.fault (.badCall "keywords must be strings"))
  | _ =>
    .error (.fault (.badCall
      ("ruleforge.validation.aliases.AliasDefinition() argument after ** must be a mapping, not " ++
        v.kindName)))

/-- Fails unless the rules of a definition are well formed. -/
def check (definition : AliasDefinition) : Except Failure AliasDefinition :=
  match Invocation.ofSpec definition.rules with
  | .ok _ => .ok definition
  | .error bad =>
    .error (.ofDefect (do
      let d ← Defect.malformedSpec bad.part bad.problem.message
      return Defect.invalidAlias d.message (some definition.name)))

/-- The name that a value gives to the alias it was meant to define, if it is a text. -/
def nameIn (v : Value) : Option String :=
  match v.entries? with
  | some entries =>
    match entries.get? "name" with
    | some (.text s) => some s
    | _ => none
  | none => none

/-- The problem of a definition where a place without a name is the definition itself. -/
def placed (p : Problem) : Problem :=
  if String.intercalate "." p.place = "" then { p with place := ["alias"] } else p

/-- Parses a definition: reads it and checks its rules. -/
def parse (v : Value) : Except Failure AliasDefinition :=
  match ofValue v with
  | .ok definition => check definition
  | .error problems =>
    .error (.defect (Defect.invalidAlias (Problem.textOfAll (problems.map placed)) (nameIn v)))

end AliasDefinition

end FieldRules
