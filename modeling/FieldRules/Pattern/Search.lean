import FieldRules.Pattern.Start

/-!
# Searching a text

A node is run at a place of the text and hands every way of matching, in order of preference, to
what is to be matched after it; the first that leads to the end is the answer.

All attempts share one trace: the marks, and the place where the last attempt stood. A failed
attempt leaves its trace behind, and most nodes put it in order before they try another way. Two
things stay visible. Marks that a failed alternative moved are put back only within a repetition;
elsewhere just those are dropped that it added. And a possessive repetition goes on from where its
last round stood, even when that round failed, so what the round passed in vain is not matched
again.

Repetitions are the only loops. A repetition of single characters is a count, taken as high or as
low as it can be. In any other one, an optional round that starts where the round before it started
is not tried, so at most one such round is made per place of the text, and the fuel is never used
up.
-/

set_option autoImplicit false

namespace FieldRules.Pattern

/-! ## Traces -/

/-- What attempts leave behind: the place where the last one stood, and the marks up to the last one
that is set. -/
structure Trace where
  tried : Nat
  marks : Array (Option Nat)
deriving DecidableEq, Repr

namespace Trace

/-- The trace of an attempt at a place. -/
def reach (t : Trace) (pos : Nat) : Trace := { t with tried := pos }

/-- The trace with a place marked. Marks that are passed over stay open. -/
def mark (t : Trace) (slot pos : Nat) : Trace :=
  let padded := t.marks ++ Array.replicate (slot + 1 - t.marks.size) none
  { t with marks := padded.setIfInBounds slot (some pos) }

/-- The trace with the marks of an earlier one: all of them within a repetition; elsewhere the later
ones are dropped. -/
def restore (t : Trace) (inside : Bool) (earlier : Trace) : Trace :=
  { t with marks := if inside then earlier.marks else t.marks.take earlier.marks.size }

/-- The marks of a group, if it has both. -/
def span? (t : Trace) (i : Nat) : Option (Nat × Nat) :=
  match t.marks[2 * i]?, t.marks[2 * i + 1]? with
  | some (some start), some (some stop) => some (start, stop)
  | _, _ => none

/-- The text of a group, if it has one, as the places where it starts and stops. -/
def group? (t : Trace) (i : Nat) : Option (Nat × Nat) :=
  (t.span? i).filter fun (start, stop) => start ≤ stop

/-- Whether no group stops before it starts. -/
def isOrdered (t : Trace) : Bool :=
  (List.range t.marks.size).all fun i => match t.span? i with
    | some (start, stop) => start ≤ stop
    | none => true

end Trace

/-- How an attempt ends. -/
inductive Outcome where
  | found (t : Trace)
  | failed (t : Trace)
deriving DecidableEq, Repr

namespace Outcome

/-- Another attempt after a failed one. -/
def orElse (o : Outcome) (other : Trace → Outcome) : Outcome :=
  match o with
  | found t => found t
  | failed t => other t

/-- The outcome with the trace of a failure put in order. -/
def onFailure (o : Outcome) (f : Trace → Trace) : Outcome := o.orElse fun t => failed (f t)

end Outcome

/-- What is matched next, from a place on. -/
abbrev Next := Nat → Trace → Outcome

/-- Nothing more is to be matched. -/
def stop : Next := fun pos t => .found (t.reach pos)

/-! ## Repetitions of single characters -/

/-- How many characters from a place on are accepted, up to a limit. -/
def countAccepted (accepts : Char → Bool) (text : Array Char) (pos : Nat) : (limit : Nat) → Nat
  | 0 => 0
  | limit + 1 =>
    match text[pos]? with
    | some c => if accepts c then countAccepted accepts text (pos + 1) limit + 1 else 0
    | none => 0

/-- Goes on from `start + extra`, …, `start`, but only where the place fits. -/
def fromMost (fits : Nat → Bool) (restore : Trace → Trace) (next : Next) (start : Nat) :
    (extra : Nat) → Trace → Outcome
  | 0, t => if fits start then (next start (t.reach start)).onFailure restore else .failed t
  | extra + 1, t =>
    let pos := start + (extra + 1)
    let attempt :=
      if fits pos then (next pos (t.reach pos)).onFailure restore else .failed t
    attempt.orElse (fromMost fits restore next start extra)

/-- Goes on from a place, and then from those after it as long as the characters in between are
accepted, `extra` of them at most. -/
def fromFewest (unit : CharTest) (text : Array Char) (restore : Trace → Trace) (next : Next) :
    (extra : Nat) → (pos : Nat) → Trace → Outcome
  | extra, pos, t =>
    (next pos (t.reach pos)).orElse fun failed =>
      let t := (restore failed).reach pos
      if (text[pos]?).any unit.accepts then
        let t := if unit.kind = .folded then t.reach (pos + 1) else t
        match extra with
        | 0 => .failed t
        | extra + 1 => fromFewest unit text restore next extra (pos + 1) t
      else .failed t

/-- Whether the text has a literal at a place, if there is one to look for. -/
def literalAt (literal : Option Nat) (text : Array Char) (pos : Nat) : Bool :=
  match literal with
  | some code => (text[pos]?).any fun c => c.toNat == code
  | none => true

/-- Runs a repetition of single characters. Characters that are compared in small form are passed
one by one, which shows in the trace. -/
def runSpan (greed : Greed) (low : Nat) (high : Option Nat) (unit : CharTest)
    (before : Option Nat) (text : Array Char) (inside : Bool) (pos : Nat) (t : Trace)
    (next : Next) : Outcome :=
  let room := text.size - pos
  if room < low then .failed t
  else
    let most := match high with
      | some n => min n room
      | none => room
    let wanted := if greed = .reluctant then low else most
    let count := countAccepted unit.accepts text pos wanted
    let passed := if unit.kind = .folded then t.reach (pos + count) else t.reach pos
    if count < low then .failed passed
    else
      let restore := fun (u : Trace) => u.restore inside passed
      match greed with
      -- Where the literal behind it does not stand, a span need not be cut.
      | .greedy => fromMost (literalAt before text) restore next (pos + low) (count - low) passed
      | .reluctant => fromFewest unit text restore next (most - low) (pos + low) passed
      | .possessive => next (pos + count) passed

/-! ## Other repetitions -/

/-- Whether one more round is allowed. -/
def mayRepeat (high : Option Nat) (count : Nat) : Bool :=
  match high with
  | some n => count < n
  | none => true

/-- As many rounds as possible; `last` is where the last optional round started. -/
def runGreedy (step : Nat → Trace → Next → Outcome) (low : Nat) (high : Option Nat) (next : Next) :
    (fuel : Nat) → (count : Nat) → (last : Option Nat) → Nat → Trace → Outcome
  | 0, _, _, _, t => .failed t
  | fuel + 1, count, last, pos, t =>
    let t := t.reach pos
    if count < low then
      (step pos t (runGreedy step low high next fuel (count + 1) last)).onFailure (·.reach pos)
    else
      let more :=
        if mayRepeat high count && last != some pos then
          (step pos t (runGreedy step low high next fuel (count + 1) (some pos))).onFailure
            fun _ => t
        else .failed t
      more.orElse fun t => (next pos t).onFailure (·.reach pos)

/-- As few rounds as possible. -/
def runReluctant (step : Nat → Trace → Next → Outcome) (inside : Bool) (low : Nat)
    (high : Option Nat) (next : Next) :
    (fuel : Nat) → (count : Nat) → (last : Option Nat) → Nat → Trace → Outcome
  | 0, _, _, _, t => .failed t
  | fuel + 1, count, last, pos, t =>
    let t := t.reach pos
    if count < low then
      (step pos t (runReluctant step inside low high next fuel (count + 1) last)).onFailure
        (·.reach pos)
    else
      (next pos t).orElse fun failed =>
        let t := (failed.restore inside t).reach pos
        if mayRepeat high count && last != some pos then
          (step pos t
            (runReluctant step inside low high next fuel (count + 1) (some pos))).onFailure
              (·.reach pos)
        else .failed t

/-- As many rounds as possible, each taken in its first way and never reconsidered. A round starts
where the trace stands. -/
def runPossessive (step : Nat → Trace → Next → Outcome) (low : Nat) (high : Option Nat)
    (next : Next) (start : Nat) :
    (fuel : Nat) → (count : Nat) → (last : Option Nat) → Trace → Outcome
  | 0, _, _, t => .failed t
  | fuel + 1, count, last, t =>
    if count < low then
      match step t.tried t stop with
      | .found t => runPossessive step low high next start fuel (count + 1) last t
      | .failed t => .failed (t.reach start)
    else if mayRepeat high count && last != some t.tried then
      match step t.tried t stop with
      | .found after =>
        runPossessive step low high next start fuel (count + 1) (some t.tried) after
      -- The marks are put back here, but not the place.
      | .failed after => next after.tried (after.restore true t)
    else next t.tried t

/-- Runs a repetition. -/
def runRepeated (greed : Greed) (low : Nat) (high : Option Nat)
    (step : Bool → Nat → Trace → Next → Outcome) (text : Array Char) (inside : Bool) (pos : Nat)
    (t : Trace) (next : Next) : Outcome :=
  let fuel := low + text.size + 3
  match greed with
  | .greedy => runGreedy (step true) low high next fuel 0 none pos t
  | .reluctant => runReluctant (step true) inside low high next fuel 0 none pos t
  | .possessive => runPossessive (step inside) low high next pos fuel 0 none (t.reach pos)

/-! ## Nodes -/

/-- Whether the text at `pos` repeats the `count` characters at `start`. -/
def repeatsAt (same : Char → Char → Bool) (text : Array Char) (start pos : Nat) : Nat → Bool
  | 0 => true
  | count + 1 =>
    match text[start]?, text[pos]? with
    | some a, some b => same a b && repeatsAt same text (start + 1) (pos + 1) count
    | _, _ => false

/-- Runs a node at a place; `inside` tells whether that is within a repetition that may give up its
rounds again. -/
def Node.run (text : Array Char) : Node → (inside : Bool) → Nat → Trace → Next → Outcome
  | .empty, _, pos, t, next => next pos t
  | .never, _, _, t, _ => .failed t
  | .one accepts, _, pos, t, next =>
    if (text[pos]?).any accepts then next (pos + 1) t else .failed t
  | .anchor holds, _, pos, t, next => if holds text pos then next pos t else .failed t
  | .mark slot, _, pos, t, next => next pos (t.mark slot pos)
  | .seq first second, inside, pos, t, next =>
    first.run text inside pos t fun pos t => second.run text inside pos t next
  | .alt entry first second, inside, pos, t, next =>
    let enters := match entry with
      | some accepts => (text[pos]?).any accepts
      | none => true
    if enters then
      (first.run text inside pos (t.reach pos) next).orElse fun failed =>
        second.run text inside pos (failed.restore inside t) next
    else second.run text inside pos t next
  | .backref group same, _, pos, t, next =>
    match t.group? group with
    | some (start, stop) =>
      if repeatsAt same text start pos (stop - start) then next (pos + (stop - start)) t
      else .failed t
    | none => .failed t
  | .atomic body, inside, pos, t, next =>
    match body.run text inside pos (t.reach pos) stop with
    | .found t => next t.tried t
    | .failed t => .failed (t.reach pos)
  | .look back negated body, inside, pos, t, next =>
    if pos < back then if negated then next pos t else .failed t
    else
      match body.run text inside (pos - back) (t.reach (pos - back)) stop with
      | .found t => if negated then .failed t else next pos t
      | .failed after => if negated then next pos (after.restore inside t) else .failed after
  | .conditional group yes no, inside, pos, t, next =>
    if (t.group? group).isSome then yes.run text inside pos t next
    else no.run text inside pos t next
  | .span greed low high unit before, inside, pos, t, next =>
    runSpan greed low high unit before text inside pos t next
  | .repeated greed low high body, inside, pos, t, next =>
    runRepeated greed low high (body.run text) text inside pos t next

/-- The trace of the first match that starts at one of `count` places from `pos` on. -/
def Node.searchFrom (node : Node) (start : Option (Char → Bool)) (text : Array Char) (pos : Nat) :
    (count : Nat) → Option Trace
  | 0 => none
  | count + 1 =>
    let mayStart := match start with
      | some accepts => (text[pos]?).any accepts
      | none => true
    if mayStart then
      match node.run text false pos ⟨pos, #[]⟩ stop with
      | .found t => some t
      | .failed _ => node.searchFrom start text (pos + 1) count
    else node.searchFrom start text (pos + 1) count

/-! ## Two examples of what a trace shows -/

-- A round of `(?:ab?c)*+` on "ab" passes "a" in vain, and matching goes on behind it.
example :
    (Node.repeated .possessive 0 none
      (.seq (.one (· == 'a'))
        (.seq (.span .greedy 0 (some 1) ⟨.other, (· == 'b')⟩ none) (.one (· == 'c'))))).run
      #['a', 'b'] false 0 ⟨0, #[]⟩ stop = .found ⟨1, #[]⟩ := by decide +kernel

-- Of `(?:(a)b|.)` on "ac", the first alternative leaves no mark behind.
example :
    (Node.alt none
      (.seq (.mark 2) (.seq (.one (· == 'a')) (.seq (.mark 3) (.one (· == 'b')))))
      (.one fun _ => true)).run
      #['a', 'c'] false 0 ⟨0, #[]⟩ stop = .found ⟨1, #[]⟩ := by decide +kernel

end FieldRules.Pattern
