import FieldRules.Log.Conversion
import FieldRules.Value.Entries

/-!
# Message templates

The message of a log entry may be a template with places for arguments. A place is a percent sign,
optionally the name of an argument in parentheses, flags, a width and a precision, a size that has
no meaning, and a letter that says how the argument is written. A width or precision may be an
argument of its own. Two percent signs stand for one.

What is filled in is a tuple of arguments, to be used up in order, or one value. If that is a list
or a mapping, or bytes for a text, names are looked up in it, and it need not be used at all.
-/

set_option autoImplicit false

namespace FieldRules.Log.Template

open Conversion (Medium)

/-- What there is to be filled in: the arguments that are left, and the value that names are looked
up in. -/
structure Supply where
  pending : List Value
  named : Option Value := none

namespace Supply

/-- The supply that a value is. -/
def ofValue (medium : Medium) : Value → Supply
  | .tuple xs => { pending := xs }
  | .list xs => { pending := [.list xs], named := some (.list xs) }
  | .map entries => { pending := [.map entries], named := some (.map entries) }
  | .bytes bs =>
    { pending := [.bytes bs], named := if medium = .text then some (.bytes bs) else none }
  | v => { pending := [v] }

/-- The next argument. -/
def next (s : Supply) : Except Fault (Value × Supply) :=
  match s.pending with
  | v :: rest => .ok (v, { s with pending := rest })
  | [] => Conversion.fail .type "not enough arguments for format string"

/-- The supply that is left of a name: only the value under it. -/
def select (source name : Value) : Except Fault Supply :=
  let refuse (kind : String) : Except Fault Supply :=
    Conversion.fail .type (kind ++ " indices must be integers or slices, not " ++ name.fullKindName)
  match source with
  | .map entries => do
    match entries.find? fun e => Value.sameKey e.1 name with
    | some e => return { pending := [e.2], named := some source }
    | none => Conversion.fail .key (← name.shown)
  | .bytes _ => refuse "byte"
  | _ => refuse "list"

/-- Fails if arguments are left that would have had to be used. -/
def finish (medium : Medium) (s : Supply) : Except Fault Unit :=
  let what := if medium = .text then "string" else "bytes"
  match s.pending, s.named with
  | _ :: _, none =>
    Conversion.fail .type ("not all arguments converted during " ++ what ++ " formatting")
  | _, _ => .ok ()

end Supply

/-! ## Reading a place -/

/-- The name up to the parenthesis that closes it, and the rest; parentheses inside a name are
balanced. -/
def readName? : (depth : Nat) → List Char → Option (List Char × List Char)
  | _, [] => none
  | 0, ')' :: rest => some ([], rest)
  | depth + 1, ')' :: rest => (readName? depth rest).map fun (name, tail) => (')' :: name, tail)
  | depth, '(' :: rest => (readName? (depth + 1) rest).map fun (name, tail) => ('(' :: name, tail)
  | depth, c :: rest => (readName? depth rest).map fun (name, tail) => (c :: name, tail)

/-- The value of characters in a medium. -/
def valueOf (medium : Medium) (cs : List Char) : Value :=
  match medium with
  | .text => .text (String.ofList cs)
  | .bytes => .bytes (cs.map fun c => UInt8.ofNat c.toNat)

/-- Reads the name of a place, if it has one, and looks it up. -/
def readSource (medium : Medium) (cs : List Char) (s : Supply) :
    Except Fault (List Char × Supply) :=
  match cs with
  | '(' :: rest =>
    match s.named with
    | none => Conversion.fail .type "format requires a mapping"
    | some source =>
      match readName? 0 rest with
      | some (name, tail) => do return (tail, ← Supply.select source (valueOf medium name))
      | none => Conversion.fail .value "incomplete format key"
  | cs => .ok (cs, s)

/-- Whether a character is a flag. -/
def isFlag (c : Char) : Bool := ['-', '0', '+', ' ', '#'].contains c

/-- The layout that flags ask for. -/
def ofFlags (flags : List Char) : Layout where
  left := flags.contains '-'
  zeros := flags.contains '0'
  plus := flags.contains '+'
  blank := flags.contains ' '
  alternate := flags.contains '#'

/-- The number that digits stand for, if it is not greater than a limit. -/
def readLimited (limit : Nat) (what : String) (digits : List Char) : Except Fault Nat :=
  let kept := digits.dropWhile (· == '0')
  if 20 < kept.length || limit < Numeral.asciiValue kept then
    Conversion.fail .value (what ++ " too big")
  else .ok (Numeral.asciiValue kept)

/-- The whole number that is the next argument, if it fits into so many bits with its sign. -/
def nextWhole (s : Supply) (limit : Nat) (kind : String) : Except Fault (Int × Supply) := do
  let (v, s) ← s.next
  let i ← match v with
    | .int i => .ok i
    | .bool b => .ok (if b then 1 else 0)
    | _ => Conversion.fail .type "* wants int"
  if (limit : Int) < i || i < -(limit : Int) - 1 then
    Conversion.fail .overflow ("Python int too large to convert to C " ++ kind)
  else return (i, s)

/-- The greatest width that can be asked for, on a machine with sizes of 64 bits. -/
def greatestWidth : Nat := 0x7fffffffffffffff

/-- The greatest precision that can be asked for. -/
def greatestPrecision : Nat := 0x7fffffff

/-- Beyond this width there is taken to be no room for what is filled. How much memory there is
depends on the machine, and so does the width at which it runs out; this one is an assumption. A
width that is somewhat smaller may fail on one machine and be filled on another, and is filled
here. -/
def roomlessWidth : Nat := 100000000000

/-- Reads the width of a place. A negative width means that the argument stands on the left. -/
def readWidth (cs : List Char) (l : Layout) (s : Supply) :
    Except Fault (List Char × Layout × Supply) :=
  match cs with
  | '*' :: rest => do
    let (i, s) ← nextWhole s greatestWidth "ssize_t"
    return (rest, { l with width := i.natAbs, left := l.left || i < 0 }, s)
  | cs => do
    let width ← readLimited greatestWidth "width" (cs.takeWhile Text.isAsciiDigit)
    return (cs.dropWhile Text.isAsciiDigit, { l with width }, s)

/-- Reads the precision of a place, if it has one. A negative precision counts as zero. -/
def readPrecision (medium : Medium) (cs : List Char) (l : Layout) (s : Supply) :
    Except Fault (List Char × Layout × Supply) :=
  match cs with
  | '.' :: '*' :: rest => do
    let (i, s) ← nextWhole s greatestPrecision "int"
    return (rest, { l with precision := some i.toNat }, s)
  | '.' :: rest => do
    let what := if medium = .text then "precision" else "prec"
    let n ← readLimited greatestPrecision what (rest.takeWhile Text.isAsciiDigit)
    return (rest.dropWhile Text.isAsciiDigit, { l with precision := some n }, s)
  | cs => .ok (cs, l, s)

/-- The characters without a size. -/
def withoutSize : List Char → List Char
  | c :: rest => if ['h', 'l', 'L'].contains c then rest else c :: rest
  | [] => []

/-- Reads a place of a template and writes its argument. The answer is what is written, the rest of
the template and of the supply. -/
def place (medium : Medium) (length : Nat) (cs : List Char) (s : Supply) :
    Except Fault (List Char × List Char × Supply) := do
  let (cs, s) ← readSource medium cs s
  let (cs, l, s) ← readWidth (cs.dropWhile isFlag) (ofFlags (cs.takeWhile isFlag)) s
  let (cs, l, s) ← readPrecision medium cs l s
  match withoutSize cs with
  | [] => Conversion.fail .value "incomplete format"
  | letter :: rest =>
    let (v, s) ← s.next
    let index := length - rest.length - 1
    if roomlessWidth < l.width then
      let _ ← Conversion.written medium { l with width := 0 } letter index v
      Conversion.fail .memory ""
    else return (← Conversion.written medium l letter index v, rest, s)

/-! ## Filling -/

/-- Fills a template of a given length, what is done being given in reverse. Each place takes at
least its percent sign, so the steps needed are bounded by the length. -/
def fillFrom (medium : Medium) (length : Nat) :
    (fuel : Nat) → (done : List (List Char)) → List Char → Supply → Except Fault (List Char)
  | 0, done, _, _ => .ok done.reverse.flatten
  | fuel + 1, done, cs, s =>
    let plain := cs.takeWhile (· != '%')
    match cs.dropWhile (· != '%') with
    | [] => do
      s.finish medium
      return (plain :: done).reverse.flatten
    | _ :: '%' :: rest => fillFrom medium length fuel (['%'] :: plain :: done) rest s
    | _ :: rest => do
      let (text, rest, s) ← place medium length rest s
      fillFrom medium length fuel (text :: plain :: done) rest s

/-- Characters filled with a value. -/
def fillWith (medium : Medium) (cs : List Char) (v : Value) : Except Fault (List Char) :=
  fillFrom medium cs.length (cs.length + 1) [] cs (.ofValue medium v)

/-- A template filled with a value. -/
def filled (template : String) (v : Value) : Except Fault String :=
  (fillWith .text template.toList v).map String.ofList

/-- A template of bytes filled with a value. -/
def filledBytes (template : List UInt8) (v : Value) : Except Fault Value :=
  (fillWith .bytes (Conversion.ofBytes template) v).map (valueOf .bytes)

/-- What a list of arguments fills a template with: the arguments in order, but a single mapping
that is not empty gives them by name. -/
def ofArguments : List Value → Value
  | [.map (e :: entries)] => .map (e :: entries)
  | values => .tuple values

example : (filled "%s is %d%%" (.tuple [.text "a", .int 7])).toOption = some "a is 7%" := by
  decide +kernel
example : (filled "%(n)04d" (.map [(.text "n", .int 7)])).toOption = some "0007" := by
  decide +kernel
example : (filled "%-*x|" (.tuple [.int 4, .int 255])).toOption = some "ff  |" := by
  decide +kernel

end FieldRules.Log.Template
