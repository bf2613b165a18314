import FieldRules.Fault

/-!
# The order of values

Numbers are ordered by their exact values, texts and bytes character by character, and sequences of
one kind by their first difference. Everything else is unordered, and so is a decimal that is not a
number. Sorting compares a value with those before it, so that what cannot be ordered is noticed at
the first comparison that needs it.
-/

set_option autoImplicit false

namespace FieldRules.Value

/-- The elements that a value is made of: of a text its characters, of a mapping its keys. -/
def elements (v : Value) : Except Fault (List Value) :=
  match v with
  | list xs | tuple xs => .ok xs
  | text s => .ok (s.toList.map fun c => text c.toString)
  | bytes bs => .ok (bs.map fun b => int b.toNat)
  | map entries => .ok (entries.map (·.1))
  | _ => .error (.notIterable v.fullKindName)

/-- Whether a value is a decimal. -/
def isDecimal : Value → Bool
  | decimal _ => true
  | _ => false

/-- The order of values that hold no other values. -/
def lessAtoms (a b : Value) : Except Fault Bool :=
  match a.worth?, b.worth? with
  | some x, some y =>
    match x, y with
    | .finite x, .finite y => .ok (x.compare y == .lt)
    | .infinite s, .infinite t => .ok (s && !t)
    | .infinite s, .finite _ => .ok s
    | .finite _, .infinite t => .ok (!t)
    | _, _ => if a.isDecimal || b.isDecimal then .error .signallingNan else .ok false
  | _, _ =>
    match a, b with
    | text s, text t => .ok (s < t)
    | bytes s, bytes t => .ok (s < t)
    | _, _ => .error (.unordered a.fullKindName b.fullKindName)

mutual

/-- Whether a value comes before another. -/
def less : Value → Value → Except Fault Bool
  | list xs, list ys => lessItems xs ys
  | tuple xs, tuple ys => lessItems xs ys
  | a, b => lessAtoms a b

/-- The order of sequences, decided by the first difference; the shorter one comes first if there is
none. -/
def lessItems : List Value → List Value → Except Fault Bool
  | [], ys => .ok !ys.isEmpty
  | _ :: _, [] => .ok false
  | x :: xs, y :: ys => do
    if ← equal x y then lessItems xs ys else less x y

end

/-- The place for a value among sorted ones, between two bounds: after all that it does not come
before. Each comparison halves the distance of the bounds. -/
def place (sorted : Array Value) (x : Value) : (fuel low high : Nat) → Except Fault Nat
  | 0, low, _ => .ok low
  | fuel + 1, low, high =>
    let middle := (low + high) / 2
    if low < high then
      match sorted[middle]? with
      | some y => do
        if ← less x y then place sorted x fuel low middle else place sorted x fuel (middle + 1) high
      | none => .ok low
    else .ok low

/-- Puts values one by one among sorted ones. -/
def insertSorted (sorted : Array Value) : List Value → Except Fault (Array Value)
  | [] => .ok sorted
  | x :: rest => do
    let i ← place sorted x (sorted.size + 1) 0 sorted.size
    insertSorted (sorted.extract 0 i ++ #[x] ++ sorted.extract i sorted.size) rest

/-- The values up to the first that breaks the direction of the first two, last one first, and the
rest. -/
def run (descending : Bool) (reversed : List Value) (last : Value) :
    List Value → Except Fault (List Value × List Value)
  | [] => .ok (last :: reversed, [])
  | x :: rest => do
    if (← less x last) == descending then run descending (last :: reversed) x rest
    else return (last :: reversed, x :: rest)

/-- The values in order, those that are equal in the order in which they are given. -/
def sorted (values : List Value) : Except Fault (List Value) :=
  match values with
  | x :: y :: rest => do
    let descending ← less y x
    let (reversed, others) ← run descending [x] y rest
    let start := if descending then reversed else reversed.reverse
    return (← insertSorted start.toArray others).toList
  | values => .ok values

example : (sorted [text "b", text "a", text "c"]).toOption.bind
    (fun vs => (vs.mapM display).toOption) = some ["a", "b", "c"] := by decide +kernel

end FieldRules.Value
