import FieldRules.Fault
import FieldRules.Log.Layout
import FieldRules.Number.Places

/-!
# Conversions

The letter of a place says how its argument is written: as running text or as it is shown, as one
character, as a whole number in a base, or as a real number with places, with an exponent or in the
way that suits its size. Each kind of conversion takes the values that it can make sense of, and
refuses the others in its own words.

A template is a text or bytes. Bytes stand here as the characters with their codes. They take in
only bytes as they are, show everything else in ASCII, and have some words of their own.
-/

set_option autoImplicit false

namespace FieldRules.Log.Conversion

/-- What a template is made of. -/
inductive Medium where
  | text
  | bytes
deriving DecidableEq, Repr

/-- A mistake in a template or its arguments. -/
def fail {α : Type} (kind : FaultKind) (message : String) : Except Fault α :=
  .error (.raised kind message)

/-! ## Texts -/

/-- The characters with those that are not ASCII escaped. -/
def asciiOnly (cs : List Char) : List Char :=
  cs.flatMap fun c => if c.toNat < 0x80 then [c] else Text.numericEscape c.toNat

/-- The characters with the codes of bytes. -/
def ofBytes (bs : List UInt8) : List Char := bs.map fun b => Char.ofNat b.toNat

/-- The characters that are taken in as they are. -/
def running (medium : Medium) (v : Value) : Except Fault (List Char) :=
  match medium, v with
  | .text, v => v.display.map String.toList
  | .bytes, .bytes bs => .ok (ofBytes bs)
  | .bytes, v =>
    fail .type ("%b requires a bytes-like object, or an object that implements __bytes__, not '" ++
      v.fullKindName ++ "'")

/-- The least code that is too great for a character, and how it is written. -/
def codeLimit : Medium → Int × String
  | .text => (0x110000, "0x110000")
  | .bytes => (256, "256")

/-- The character that an argument stands for. -/
def character (medium : Medium) (v : Value) : Except Fault Char :=
  let (limit, shown) := codeLimit medium
  let ofCode (i : Int) : Except Fault Char :=
    if i < 0 || limit ≤ i then fail .overflow ("%c arg not in range(" ++ shown ++ ")")
    else .ok (Char.ofNat i.toNat)
  let refuse : Except Fault Char := fail .type (match medium with
    | .text => "%c requires int or char"
    | .bytes => "%c requires an integer in range(256) or a single byte")
  match medium, v with
  | _, .int i => ofCode i
  | _, .bool b => ofCode (if b then 1 else 0)
  | .text, .text s =>
    match s.toList with
    | [c] => .ok c
    | _ => refuse
  | .bytes, .bytes bs =>
    match ofBytes bs with
    | [c] => .ok c
    | _ => refuse
  | _, _ => refuse

/-! ## Whole numbers -/

/-- The refusal of an argument that is no number of the kind that a letter asks for. -/
def notANumber {α : Type} (letter : Char) (kind : String) (v : Value) : Except Fault α :=
  fail .type ("%" ++ letter.toString ++ " format: " ++ kind ++ " is required, not " ++
    v.fullKindName)

/-- The whole part of a real number. -/
def wholePart (letter : Char) (v : Value) : Except Fault Int :=
  match v with
  | .bool b => .ok (if b then 1 else 0)
  | .int i => .ok i
  | .float .nan => fail .value "cannot convert float NaN to integer"
  | .float (.infinity _) => fail .overflow "cannot convert float infinity to integer"
  | .float (.finite negative rank) => .ok (Binary64.exactAt negative rank).truncate
  | .decimal (.finite negative coefficient exponent) =>
    if (Numeral.digitLimit : Int) < exponent && coefficient != 0 then .error .numberTooLong
    else .ok (Number.truncate (.decimal negative coefficient exponent))
  | .decimal (.infinity _) => fail .overflow "cannot convert Infinity to integer"
  | .decimal (.nan _ _ _) => fail .value "cannot convert NaN to integer"
  | _ => notANumber letter "a real number" v

/-- A whole number as it is. -/
def whole (letter : Char) (v : Value) : Except Fault Int :=
  match v with
  | .bool b => .ok (if b then 1 else 0)
  | .int i => .ok i
  | _ => notANumber letter "an integer" v

/-- The greatest precision that a whole number can be set with. -/
def greatestPrecision : Nat := 2147483644

/-- Sets digits of a whole number, of which the precision is the least number. -/
def setDigits (l : Layout) (negative : Bool) (mark digits : List Char) :
    Except Fault (List Char) :=
  let least := l.precision.getD 0
  if greatestPrecision < least then fail .overflow "precision too large"
  else
    .ok (l.figure { negative, mark, digits := Binary64.zeros (least - digits.length) ++ digits })

/-- Sets a whole number in decimal digits. -/
def setDecimal (l : Layout) (i : Int) : Except Fault (List Char) :=
  match Numeral.wholeText? i.natAbs with
  | some digits => setDigits l (i < 0) [] digits.toList
  | none =>
    if greatestPrecision < l.precision.getD 0 then fail .overflow "precision too large"
    else .error .numberTooLong

/-- Sets a whole number in the digits of a base, which has a mark of its own. -/
def setInBase (l : Layout) (base : Nat) (mark : Char) (i : Int) : Except Fault (List Char) :=
  setDigits l (i < 0) (if l.alternate then ['0', mark] else []) (Nat.toDigits base i.natAbs)

/-! ## Real numbers -/

/-- The binary number that an argument stands for. -/
def real (v : Value) : Except Fault Binary64 :=
  let ofWhole (i : Int) : Except Fault Binary64 :=
    match Binary64.ofDecimal (i < 0) i.natAbs 0 with
    | .infinity _ => fail .overflow "int too large to convert to float"
    | x => .ok x
  match v with
  | .bool b => ofWhole (if b then 1 else 0)
  | .int i => ofWhole i
  | .float x => .ok x
  | .decimal (.finite negative coefficient exponent) =>
    .ok (Binary64.ofDecimal negative coefficient exponent)
  | .decimal (.infinity negative) => .ok (.infinity negative)
  | .decimal (.nan _ true _) => fail .value "cannot convert signaling NaN to float"
  | .decimal (.nan _ false _) => .ok .nan
  | _ => fail .type ("must be real number, not " ++ v.fullKindName)

/-- The binary number that an argument stands for in a medium; bytes have one refusal for all that
is none. -/
def realIn (medium : Medium) (v : Value) : Except Fault Binary64 :=
  match medium, real v with
  | .bytes, .error _ => fail .type ("float argument required, not " ++ v.fullKindName)
  | _, x => x

/-- The figure of a binary number, of which finite magnitudes are written in a given way. -/
def figureOf (written : Nat → List Char) : Binary64 → Figure
  | .nan => { negative := false, digits := "nan".toList }
  | .infinity negative => { negative, digits := "inf".toList }
  | .finite negative rank => { negative, digits := written rank.val }

/-- Sets a real number in the way of a small letter. -/
def setReal (medium : Medium) (l : Layout) (letter : Char) (v : Value) : Except Fault Figure := do
  let x ← realIn medium v
  let precision := l.precision.getD 6
  return figureOf (match letter with
    | 'e' => Binary64.scientificText l.alternate precision
    | 'f' => Binary64.fixedText l.alternate precision
    | _ => Binary64.generalText l.alternate precision) x

/-- A figure in capitals. -/
def capital (f : Figure) : Figure := { f with digits := f.digits.map Char.toUpper }

/-! ## Letters -/

/-- The refusal of a letter, which stands at an index of the template. In a text, only a character
that can be seen stands for itself; a byte that is not ASCII cannot be named. -/
def unknownLetter {α : Type} (medium : Medium) (letter : Char) (index : Nat) : Except Fault α :=
  let visible := 31 ≤ letter.toNat && letter.toNat ≤ 126
  let shown := if medium = .bytes || visible then letter.toString else "?"
  if medium = .bytes && 0x80 ≤ letter.toNat then
    fail .overflow "character argument not in range(0x110000)"
  else fail .value ("unsupported format character '" ++ shown ++ "' (0x" ++
    String.ofList (Nat.toDigits 16 letter.toNat) ++ ") at index " ++ toString index)

/-- Writes an argument in the way of a letter, which stands at an index of the template. -/
def written (medium : Medium) (l : Layout) (letter : Char) (index : Nat) (v : Value) :
    Except Fault (List Char) :=
  match letter with
  | 's' => (running medium v).map l.text
  | 'b' => if medium = .bytes then (running medium v).map l.text else unknownLetter medium 'b' index
  | 'r' => v.shown.map fun s =>
    l.text (if medium = .bytes then asciiOnly s.toList else s.toList)
  | 'a' => v.shown.map fun s => l.text (asciiOnly s.toList)
  | 'c' => (character medium v).map fun c => l.fill [c]
  | 'd' | 'u' => do setDecimal l (← wholePart letter v)
  | 'i' => do setDecimal l (← wholePart (if medium = .bytes then 'd' else 'i') v)
  | 'o' => do setInBase l 8 'o' (← whole letter v)
  | 'x' => do setInBase l 16 'x' (← whole letter v)
  | 'X' => do return (← setInBase l 16 'x' (← whole letter v)).map Char.toUpper
  | 'e' | 'f' | 'g' => do return l.figure (← setReal medium l letter v)
  | 'E' | 'F' | 'G' => do return l.figure (capital (← setReal medium l letter.toLower v))
  | _ => unknownLetter medium letter index

end FieldRules.Log.Conversion
