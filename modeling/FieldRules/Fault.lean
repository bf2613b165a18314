import FieldRules.Rule.Refusal
import FieldRules.Value.Equality
import FieldRules.Value.Key
import FieldRules.Value.Shown

/-!
# Faults

What can stop an evaluation: a rule's objection to its arguments, an operation that values refuse,
or whatever a custom builder raises. Faults of the kinds `value` and `type` raised by a builder are
reported as bad arguments of its rule; the others pass through as they are.

A machine can also run out of its stack or of its memory. When it does depends on the machine and on
nothing that is described here, so that this is no fault, and statements about all faults leave it
out. Only a width that no machine has room for is told apart (`Log.Template.roomlessWidth`).
-/

set_option autoImplicit false

namespace FieldRules

/-- The kinds of faults that callers tell apart. -/
inductive FaultKind where
  | value
  | type
  | key
  | overflow
  | arithmetic
  | member
  | index
  | memory
  | runtime
  | system
deriving DecidableEq, Repr

/-- What stopped an evaluation. -/
inductive Fault where
  | refused (refusal : Refusal)
  | numberTooLong
  | repetitionTooLarge
  | farLookbehind
  | crossedGroup
  | signallingNan
  | notAKey (problem : KeyProblem)
  | badCall (objection : String)
  | notReal (kindName : String)
  | unreadable (shown : String)
  | notIterable (kindName : String)
  | unordered (left right : String)
  | noSuchMember (kindName name : String)
  | raised (kind : FaultKind) (message : String)
deriving DecidableEq

namespace Fault

/-- The kind of a fault. -/
def kind : Fault → FaultKind
  | refused _ | numberTooLong | unreadable _ => .value
  | repetitionTooLarge => .overflow
  | farLookbehind => .runtime
  | crossedGroup => .system
  | signallingNan => .arithmetic
  | notAKey _ | badCall _ | notReal _ | notIterable _ | unordered _ _ => .type
  | noSuchMember _ _ => .member
  | raised kind _ => kind

/-- The wording of a fault. -/
def message : Fault → String
  | refused refusal => refusal.message
  | numberTooLong =>
    "Exceeds the limit (4300 digits) for integer string conversion; " ++
      "use sys.set_int_max_str_digits() to increase the limit"
  | repetitionTooLarge => "the repetition number is too large"
  | farLookbehind => "invalid SRE code"
  | crossedGroup =>
    "The span of capturing group is wrong, please report a bug for the re module."
  | signallingNan => "[<class 'decimal.InvalidOperation'>]"
  | notAKey (.container kindName) => "unhashable type: '" ++ kindName ++ "'"
  | notAKey .signallingNan => "Cannot hash a signaling NaN value."
  | badCall objection => objection
  | notReal kindName =>
    "float() argument must be a string or a real number, not '" ++ kindName ++ "'"
  | unreadable shown => "could not convert string to float: " ++ shown
  | notIterable kindName => "'" ++ kindName ++ "' object is not iterable"
  | unordered left right =>
    "'<' not supported between instances of '" ++ left ++ "' and '" ++ right ++ "'"
  | noSuchMember kindName name =>
    "'" ++ kindName ++ "' object has no attribute '" ++ name ++ "'"
  | raised _ message => message

/-- Whether a builder that raises the fault has objected to its arguments. -/
def isObjection (f : Fault) : Bool := f.kind == .value || f.kind == .type

end Fault

namespace Value

/-- The value as it stands inside a message. -/
def shown (v : Value) : Except Fault String :=
  match v.shown? with
  | some s => .ok s
  | none => .error .numberTooLong

/-- The value as it stands in running text. -/
def display (v : Value) : Except Fault String :=
  match v.display? with
  | some s => .ok s
  | none => .error .numberTooLong

/-- The value as a text to be checked. -/
def plainText (v : Value) : Except Fault String :=
  match v.plainText? with
  | some s => .ok s
  | none => .error .numberTooLong

/-- Whether the value is a whole number, or the numeral of one. Infinite decimals count as whole,
infinite floats do not. -/
def isIntegral (v : Value) : Except Fault Bool :=
  match v with
  | bool _ | int _ => .ok true
  | decimal (.finite negative coefficient exponent) =>
    .ok (Number.isWhole (.decimal negative coefficient exponent))
  | decimal (.infinity _) => .ok true
  | decimal (.nan _ _ _) => .ok false
  | float x => .ok (isWholeFloat x)
  | text s => readFloat s.toList
  | bytes bs => readFloat (bs.map asciiChar)
  | _ => .error (.notReal v.kindName)
where
  asciiChar (b : UInt8) : Char :=
    if b < 0x1c || (0x20 ≤ b && b < 0x80) then Char.ofNat b.toNat else '\ufffd'
  isWholeFloat (x : Binary64) : Bool := ((Number.ofBinary64? x).map Number.isWhole).getD false
  readFloat (cs : List Char) : Except Fault Bool :=
    match Numeral.readReal? (Text.stripWhiteSpace cs) with
    | some x => .ok (isWholeFloat x)
    | none => do
      let shown ← v.shown
      throw (.unreadable shown)

/-- Equality of values. -/
def equal (a b : Value) : Except Fault Bool :=
  match equal? a b with
  | some answer => .ok answer
  | none => .error .signallingNan

/-- Fails unless the value can be looked up as a key. -/
def checkKey (v : Value) : Except Fault Unit :=
  match v.keyProblem? with
  | some problem => .error (.notAKey problem)
  | none => .ok ()

end Value

end FieldRules
