import FieldRules.Rule.Recipe
import FieldRules.Text.Utf8

/-!
# Log records

A record is a list of named values. Before it is written, whatever might hold validated input is
blanked out: the names under which input could be passed are known, and their values are replaced
whatever they are. Only then are the values brought into the form that JSON has for them.
-/

set_option autoImplicit false

namespace FieldRules.Log

/-- Named values. -/
abbrev Record := List (String × Value)

namespace Record

/-- The names under which validated input might be passed. -/
def inputNames : List String := ["value", "values", "data", "input", "siblings", "output"]

/-- What stands for a value that is not shown. -/
def redacted : Value := .text "[REDACTED]"

/-- The record with its inputs blanked out. -/
def redact (r : Record) : Record :=
  r.map fun (name, v) => (name, if inputNames.contains name then redacted else v)

/-- The record with a value under a name that it may have already. -/
def put (r : Record) (name : String) (v : Value) : Record := putNamed name v r

/-- The record with a value under a name that it does not have yet. -/
def putDefault (r : Record) (name : String) (v : Value) : Record :=
  if (r.lookup name).isSome then r else r ++ [(name, v)]

/-- The record with another one put over it. -/
def overlay (r other : Record) : Record := other.foldl (fun acc e => acc.put e.1 e.2) r

/-- The record with those of another one that it does not have put under it. -/
def underlay (r other : Record) : Record := other.foldl (fun acc e => acc.putDefault e.1 e.2) r

/-- Details that are given by entries; their keys have to be texts. -/
def ofEntries : Entries → Except Fault Record
  | [] => .ok []
  | (.text name, v) :: rest => (ofEntries rest).map ((name, v) :: ·)
  | _ => .error (.badCall "keywords must be strings")

/-- The record without some names. -/
def without (r : Record) (names : List String) : Record := r.filter fun e => !names.contains e.1

/-- The record with the bytes among its values read as text. -/
def decoded (r : Record) : Record :=
  r.map fun (name, v) => (name, match v with
    | .bytes bs => .text (Text.ofUtf8 bs)
    | v => v)

/-! ## JSON -/

/-- The text of a key in JSON, if it can be one. -/
def keyText? : Value → Option String
  | .text s => some s
  | .null => some "null"
  | .bool b => some (if b then "true" else "false")
  | .int i => Numeral.wholeText? i
  | .float .nan => some "NaN"
  | .float (.infinity negative) => some (if negative then "-Infinity" else "Infinity")
  | .float x => some x.text
  | _ => none

/-- Named values of which a later one replaces an earlier one with the same name, in its place. -/
def merged (named : List (String × Value)) : List (String × Value) :=
  named.foldl (fun acc e => putNamed e.1 e.2 acc) []

mutual

/-- A value in the form that JSON has for it: what JSON has no form for is shown. None if that is
not possible. -/
def jsonForm? : Value → Option Value
  | .int i => (Numeral.wholeText? i).map fun _ => .int i
  | .decimal d => (Value.shown? (.decimal d)).map .text
  | .bytes bs => (Value.shown? (.bytes bs)).map .text
  | .list xs => (jsonItems? xs).map .list
  | .tuple xs => (jsonItems? xs).map .list
  | .map entries => (jsonEntries? entries).map fun named => .map (Entries.ofNamed (merged named))
  | v => some v

/-- The forms of elements. -/
def jsonItems? : List Value → Option (List Value)
  | [] => some []
  | x :: xs => do
    let first ← jsonForm? x
    let rest ← jsonItems? xs
    some (first :: rest)

/-- The forms of entries. -/
def jsonEntries? : Entries → Option (List (String × Value))
  | [] => some []
  | (k, v) :: entries => do
    let name ← keyText? k
    let value ← jsonForm? v
    let rest ← jsonEntries? entries
    some ((name, value) :: rest)

end

/-- The record in the form that JSON has for it. -/
def json? (r : Record) : Option Record := r.mapM fun (name, v) => return (name, ← jsonForm? v)

end Record

end FieldRules.Log
