import FieldRules.Text.Quoted
import FieldRules.Value

/-!
# How values are shown

A value has three texts. It is *shown* inside a message with its texts quoted, so that `1` and `"1"`
look different. Its *display* is the same, except that texts and decimals stand as they are. Its
*plain text* is the display, except that booleans and whole floats read the way they do in a
document: this is the text that string rules check.

All three are missing exactly when a whole number inside is too long to be written.
-/

set_option autoImplicit false

namespace FieldRules.Value

/-- Texts joined by a comma and a blank. -/
def commaSeparated (parts : List String) : String := String.intercalate ", " parts

mutual

/-- The value as it stands inside a message. -/
def shown? : Value → Option String
  | null => some "None"
  | bool b => some (if b then "True" else "False")
  | int i => Numeral.wholeText? i
  | float x => some x.text
  | decimal d => some ("Decimal('" ++ d.text ++ "')")
  | text s => some (Text.quoted s)
  | bytes bs => some (Text.quotedBytes bs)
  | list xs => do
    let parts ← itemsShown? xs
    some ("[" ++ commaSeparated parts ++ "]")
  | tuple xs => do
    match ← itemsShown? xs with
    | [part] => some ("(" ++ part ++ ",)")
    | parts => some ("(" ++ commaSeparated parts ++ ")")
  | map entries => do
    let parts ← entriesShown? entries
    some ("\x7b" ++ commaSeparated parts ++ "\x7d")

/-- How elements are shown. -/
def itemsShown? : List Value → Option (List String)
  | [] => some []
  | x :: xs => do
    let part ← shown? x
    let rest ← itemsShown? xs
    some (part :: rest)

/-- How entries are shown. -/
def entriesShown? : Entries → Option (List String)
  | [] => some []
  | (k, v) :: entries => do
    let key ← shown? k
    let value ← shown? v
    let rest ← entriesShown? entries
    some ((key ++ ": " ++ value) :: rest)

end

/-- The value as it stands in running text. -/
def display? : Value → Option String
  | text s => some s
  | decimal d => some d.text
  | v => shown? v

/-- The value as a text to be checked. -/
def plainText? : Value → Option String
  | bool b => some (if b then "true" else "false")
  | float (.finite negative rank) =>
    let exact := Binary64.exactAt negative rank
    if exact.isWhole then Numeral.wholeText? exact.truncate
    else some (Binary64.text (.finite negative rank))
  | v => display? v

example : shown? (list [text "a", tuple [int 1], null]) = some "['a', (1,), None]" := by
  decide +kernel
example : plainText? (float (.ofDecimal true 0 0)) = some "0" := by decide +kernel

theorem plainText?_text (s : String) : plainText? (text s) = some s := rfl

end FieldRules.Value
