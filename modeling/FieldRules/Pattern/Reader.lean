import FieldRules.Pattern.Escape

/-!
# Reading patterns

The grammar of patterns: alternatives of sequences of repeated items, with character sets, groups of
many kinds and flags. Reading also performs the simplifications that belong to the language: an
alternation whose branches start alike has the common start moved out, and one that is left with
single characters only *is* a character set, which matters when case is ignored.

Each step of reading uses up at least one character or goes one level down into a group that was
opened by one, so the fuel computed from the length of the text is never used up.
-/

set_option autoImplicit false

namespace FieldRules.Pattern

namespace Reader

/-! ## Character sets -/

/-- The list without repetitions. -/
def withoutRepeats (members : List Member) : List Member :=
  members.foldl (fun acc m => if acc.contains m then acc else acc ++ [m]) []

/-- A character set as an item; a set of one character is that character. -/
def setItem (negated : Bool) (members : List Member) : Item :=
  match withoutRepeats members with
  | [.char code] => if negated then .notChar code else .char code
  | distinct => .set negated distinct

/-- What a token means inside a set. -/
def readMember : Token → Reader Member
  | .plain c => return .char c.toNat
  | .escaped c => readSetEscape c

/-- Reads the members of a set that was opened at `start`; `acc` holds those read so far, in
reverse. -/
def readMembers (start : Nat) : Nat → List Member → Reader (List Member)
  | 0, acc => return acc.reverse
  | fuel + 1, acc => do
    let some this ← take | rejectAt .unterminatedSet start
    if this = .plain ']' && !acc.isEmpty then return acc.reverse
    let low ← readMember this
    if !(← accept '-') then readMembers start fuel (low :: acc)
    else
      let some that ← take | rejectAt .unterminatedSet start
      if that = .plain ']' then return (.char '-'.toNat :: low :: acc).reverse
      let high ← readMember that
      match low, high with
      | .char a, .char b =>
        if b < a then
          reject (.badRange this.text that.text) (this.chars.length + 1 + that.chars.length)
        else readMembers start fuel (.range a b :: acc)
      | _, _ => reject (.badRange this.text that.text) (this.chars.length + 1 + that.chars.length)

/-- Reads a character set after its opening bracket. -/
def readSet : Reader Item := do
  let start := (← place) - 1
  let negated ← accept '^'
  let members ← readMembers start (← remaining) []
  return setItem negated members

/-! ## Repetitions -/

/-- Reads the digits of a count; none are no count. -/
def readCount (ds : List Char) : Reader (Option Nat) :=
  if ds.isEmpty then return none
  else if Numeral.digitLimit < ds.length then throw (.repetitionUnreadable ds.length)
  else
    let n := Numeral.asciiValue ds
    if Item.endless ≤ n then throw .repetitionTooLarge else return some n

/-- Reads the bounds of a repetition after its opening brace, `here` being the place after it. None
means that the brace was only a brace. -/
def readBounds (here : Nat) : Reader (Option (Nat × Option Nat)) := do
  if (← get).next = some (.plain '\x7d') then return none
  let saved ← get
  let low ← takeAll Char.isDigit
  let high ← if ← accept ',' then takeAll Char.isDigit else pure low
  if !(← accept '\x7d') then
    set saved
    return none
  let least ← readCount low
  let most ← readCount high
  match most with
  | some n =>
    if n < least.getD 0 then rejectAt .reversedRepeat here else return some (least.getD 0, some n)
  | none => return some (least.getD 0, none)

/-- Reads the mark that says how a repetition chooses its count. -/
def readGreed : Reader Greed := do
  if ← accept '?' then return .reluctant
  if ← accept '+' then return .possessive
  return .greedy

/-- Reads a repetition of the last item, the operator having just been used up. -/
def readRepeat (operator : Char) (acc : List Item) : Reader (List Item) := do
  let here ← place
  let bounds ← match operator with
    | '?' => pure (some (0, some 1))
    | '*' => pure (some (0, none))
    | '+' => pure (some (1, none))
    | _ => readBounds here
  match bounds with
  | none => return .char operator.toNat :: acc
  | some (low, high) =>
    match acc with
    | [] => rejectAt .nothingToRepeat (here - 1)
    | .anchor _ :: _ => rejectAt .nothingToRepeat (here - 1)
    | .repeated _ _ _ _ :: _ => rejectAt .multipleRepeat (here - 1)
    | item :: before =>
      let body := match item with
        | .group none add remove body => if add.isEmpty && remove.isEmpty then body else [item]
        | _ => [item]
      return .repeated (← readGreed) low high body :: before

/-! ## Flags -/

/-- The flag with a letter; the locale flag has one but cannot be set. -/
def flagOf? : Char → Option Flags
  | 'i' => some { ignoreCase := true }
  | 'm' => some { multiline := true }
  | 's' => some { dotAll := true }
  | 'x' => some { verbose := true }
  | 'a' => some { ascii := true }
  | 't' => some { template := true }
  | 'u' => some { unicode := true }
  | 'L' => some {}
  | _ => none

/-- The flag with a token. -/
def tokenFlag? : Token → Option (Char × Flags)
  | .plain c => (flagOf? c).map (c, ·)
  | .escaped _ => none

/-- Rejects a token that is no flag. -/
def rejectFlag {α : Type} (t : Token) (missing : Problem) : Reader α :=
  let isLetter := match t with | .plain c => Text.isLetter c | .escaped _ => false
  reject (if isLetter then .unknownFlag else missing) t.chars.length

/-- Reads the flags to add, up to the character that ends them. -/
def readAdded : Nat → Token → Flags → Reader (Flags × Token)
  | 0, t, acc => return (acc, t)
  | fuel + 1, t, acc => do
    match tokenFlag? t with
    | none => rejectFlag t .missingFlagEnd
    | some (c, flag) =>
      if c = 'L' then reject .localeFlag
      let acc := acc.union flag
      if (flag.ascii || flag.unicode) && acc.ascii && acc.unicode then reject .incompatibleFlags
      let some t ← take | reject .missingFlagEnd
      if t = .plain ')' || t = .plain '-' || t = .plain ':' then return (acc, t)
      else readAdded fuel t acc

/-- Reads the flags to remove, up to the colon. -/
def readRemoved : Nat → Token → (missing : Problem) → Flags → Reader Flags
  | 0, _, _, acc => return acc
  | fuel + 1, t, missing, acc => do
    match tokenFlag? t with
    | none => rejectFlag t missing
    | some (c, flag) =>
      if c = 'L' || flag.ascii || flag.unicode then reject .classFlagOff
      let acc := acc.union flag
      let some t ← take | reject .missingFlagColon
      if t = .plain ':' then return acc else readRemoved fuel t .missingFlagColon acc

/-- Whether two sets of flags share one. -/
def overlap (a b : Flags) : Bool := !((a.minus (a.minus b)).isEmpty)

/-- Reads the flags of a group, starting with a token. None means that they were set for the whole
pattern. -/
def readFlags (first : Token) : Reader (Option (Flags × Flags)) := do
  let fuel ← remaining
  let (add, last) ←
    if first = .plain '-' then pure (({} : Flags), first) else readAdded fuel first {}
  if last = .plain ')' then
    modify fun s => { s with flags := s.flags.union add }
    return none
  if add.template then reject .globalFlagOn 1
  let remove ←
    if last = .plain '-' then
      let some t ← take | reject .missingFlag
      readRemoved fuel t .missingFlag {}
    else pure {}
  if remove.template then reject .globalFlagOff 1
  if overlap add remove then reject .flagOnAndOff 1
  return some (add, remove)

/-! ## Alternations -/

/-- The first item of all branches, if they agree on it. -/
def commonStart? : List (List Item) → Option Item
  | [] => none
  | [] :: _ => none
  | (first :: _) :: branches =>
    if branches.all fun branch => match branch with
      | item :: _ => item.sameAtom first
      | [] => false
    then some first else none

/-- Moves the items with which all branches start in front of them. -/
def factor : Nat → List (List Item) → List Item × List (List Item)
  | 0, branches => ([], branches)
  | fuel + 1, branches =>
    match commonStart? branches with
    | some first =>
      let (start, rest) := factor fuel (branches.map List.tail)
      (first :: start, rest)
    | none => ([], branches)

/-- The characters that a one-character branch stands for. -/
def branchMembers? : List Item → Option (List Member)
  | [.char code] => some [.char code]
  | [.set false members] => some members
  | _ => none

/-- An alternation as a sequence of items. -/
def alternation (branches : List (List Item)) : List Item :=
  match branches with
  | [branch] => branch
  | _ =>
    let (start, rest) := factor ((branches.map List.length).foldl max 0) branches
    match rest.mapM branchMembers? with
    | some members => start ++ [.set false (withoutRepeats members.flatten)]
    | none => start ++ [.choice rest]

/-- A sequence in which groups without a number and without flags have dissolved. -/
def dissolve (items : List Item) : List Item :=
  items.flatMap fun item => match item with
    | .group none add remove body => if add.isEmpty && remove.isEmpty then body else [item]
    | _ => [item]

/-! ## Groups -/

/-- No pattern has a group with this number or a greater one. -/
def groupLimit : Nat := 1073741823

/-- The group that a condition names. -/
def readCondition : Reader Nat := do
  let name ← readUntil ')' "group name"
  let group ←
    if Text.isIdentifier name then
      match (← get).names.lookup (String.ofList name) with
      | some group => pure group
      | none => reject (.unknownGroupName (String.ofList name)) (name.length + 1)
    else
      match Numeral.readWhole? (Text.trimList name) with
      | some (.ofNat n) =>
        if n = 0 then reject .badGroupNumber (name.length + 1)
        else if groupLimit ≤ n then reject (.invalidReference n) (name.length + 1)
        else
          let here := (← place) - name.length - 1
          modify fun s =>
            if (s.conditions.lookup n).isSome then s
            else { s with conditions := s.conditions ++ [(n, here)] }
          pure n
      | _ => reject (.badGroupName (String.ofList name)) (name.length + 1)
  checkLookbehind group
  return group

/-- What the text after an opening parenthesis turns out to be. -/
inductive Opening where
  /-- An item that is complete, or nothing at all. -/
  | done (item : Option Item)
  | capture (name : Option (List Char))
  | scoped (add remove : Flags)
  | atomic
  | look (behind negated : Bool)
  | conditional

/-- Reads what follows `(?P`. -/
def readNamedOpening : Reader Opening := do
  if ← accept '<' then
    let name ← readUntil '>' "group name"
    checkGroupName name
    return .capture (some name)
  else if ← accept '=' then
    let name ← readUntil ')' "group name"
    checkGroupName name
    match (← get).names.lookup (String.ofList name) with
    | none => reject (.unknownGroupName (String.ofList name)) (name.length + 1)
    | some group => return .done (some (← reference group (name.length + 1)))
  else
    match ← take with
    | none => reject .unexpectedEnd
    | some t => reject (.unknownExtension ("P" ++ t.text)) (t.chars.length + 2)

/-- Reads what follows an opening parenthesis at `start`. `atFront` tells whether flags for the
whole pattern may still be set. -/
def readOpening (start : Nat) (atFront : Bool) : Reader Opening := do
  if !(← accept '?') then return .capture none
  let some t ← take | reject .unexpectedEnd
  match t with
  | .plain 'P' => readNamedOpening
  | .plain ':' => return .scoped {} {}
  | .plain '#' =>
    skipComment start (← remaining)
    return .done none
  | .plain '=' => return .look false false
  | .plain '!' => return .look false true
  | .plain '<' =>
    let some t ← take | reject .unexpectedEnd
    match t with
    | .plain '=' => return .look true false
    | .plain '!' => return .look true true
    | _ => reject (.unknownExtension ("<" ++ t.text)) (t.chars.length + 2)
  | .plain '(' => return .conditional
  | .plain '>' => return .atomic
  | _ =>
    if (tokenFlag? t).isSome || t = .plain '-' then
      match ← readFlags t with
      | some (add, remove) => return .scoped add remove
      | none => if atFront then return .done none else rejectAt .lateFlags start
    else reject (.unknownExtension t.text) (t.chars.length + 1)

/-- Uses up the parenthesis that closes the group opened at `start`. -/
def close (start : Nat) : Reader Unit := do
  if ← accept ')' then return () else rejectAt .unterminatedGroup start

mutual

/-- Reads alternatives up to a closing parenthesis or the end; `top` tells whether they are those of
the whole pattern. -/
def readChoice : Nat → (top verbose : Bool) → Reader (List Item)
  | 0, _, _ => return []
  | fuel + 1, top, verbose => do
    let branches ← readBranches fuel top verbose top
    return alternation branches

/-- Reads alternatives one by one. -/
def readBranches : Nat → (top verbose first : Bool) → Reader (List (List Item))
  | 0, _, _, _ => return []
  | fuel + 1, top, verbose, first => do
    let branch ← readSequence fuel verbose first []
    if ← accept '|' then
      let flags := (← get).flags
      let others ← readBranches fuel top (if top then flags.verbose else verbose) false
      return branch :: others
    else return [branch]

/-- Reads a sequence of items, the last one read coming first in `acc`. -/
def readSequence : Nat → (verbose first : Bool) → List Item → Reader (List Item)
  | 0, _, _, acc => return dissolve acc.reverse
  | fuel + 1, verbose, first, acc => do
    match (← get).next with
    | none => return dissolve acc.reverse
    | some (.plain '|') => return dissolve acc.reverse
    | some (.plain ')') => return dissolve acc.reverse
    | some (.escaped c) =>
      advance
      let item ← readEscape c
      readSequence fuel verbose first (item :: acc)
    | some (.plain c) =>
      advance
      if verbose && " \t\n\r\x0b\x0c".toList.contains c then readSequence fuel verbose first acc
      else if verbose && c = '#' then
        skipLine (← remaining)
        readSequence fuel verbose first acc
      else match c with
        | '[' =>
          let item ← readSet
          readSequence fuel verbose first (item :: acc)
        | '.' => readSequence fuel verbose first (.any :: acc)
        | '^' => readSequence fuel verbose first (.anchor .lineStart :: acc)
        | '$' => readSequence fuel verbose first (.anchor .lineEnd :: acc)
        | '(' =>
          match ← readGroup fuel verbose (first && acc.isEmpty) with
          | some item => readSequence fuel verbose first (item :: acc)
          | none =>
            let flags := (← get).flags
            readSequence fuel (verbose || (first && acc.isEmpty && flags.verbose)) first acc
        | _ =>
          if c = '*' || c = '+' || c = '?' || c = '\x7b' then
            let acc ← readRepeat c acc
            readSequence fuel verbose first acc
          else readSequence fuel verbose first (.char c.toNat :: acc)

/-- Reads a group after its opening parenthesis; comments and flags for the whole pattern leave no
item. -/
def readGroup : Nat → (verbose atFront : Bool) → Reader (Option Item)
  | 0, _, _ => return none
  | fuel + 1, verbose, atFront => do
    let start := (← place) - 1
    match ← readOpening start atFront with
    | .done item => return item
    | .capture name =>
      let group ← openGroup name
      let body ← readChoice fuel false verbose
      close start
      closeGroup group body
      return some (.group (some group) {} {} body)
    | .scoped add remove =>
      let body ← readChoice fuel false ((verbose || add.verbose) && !remove.verbose)
      close start
      return some (.group none add remove body)
    | .atomic =>
      let body ← readChoice fuel false verbose
      close start
      return some (.atomic body)
    | .look behind negated =>
      let outer := (← get).lookbehindFrom
      if behind && outer.isNone then
        modify fun s => { s with lookbehindFrom := some s.widths.size }
      let body ← readChoice fuel false verbose
      if behind then modify fun s => { s with lookbehindFrom := outer }
      close start
      return some (.look behind negated body)
    | .conditional =>
      let group ← readCondition
      let yes ← readSequence fuel verbose false []
      let no ←
        if ← accept '|' then
          let no ← readSequence fuel verbose false []
          if (← get).next = some (.plain '|') then reject .tooManyBranches
          pure (some no)
        else pure none
      close start
      return some (.conditional group yes no)

end

/-- Rejects a condition on a group that the pattern does not have. -/
def checkConditions (groups : Nat) : List (Nat × Nat) → Reader Unit
  | [] => return ()
  | (group, here) :: rest =>
    if groups ≤ group then rejectAt (.invalidReference group) here else checkConditions groups rest

/-- Reads a whole pattern. -/
def readPattern (fuel : Nat) : Reader (List Item × Flags) := do
  advance
  let items ← readChoice fuel true false
  let s ← get
  let flags := s.flags
  if flags.ascii && flags.unicode then throw .clashingFlags
  if s.next.isSome then reject .unbalancedGroup
  checkConditions s.widths.size s.conditions
  return (items, { flags with unicode := !flags.ascii })

end Reader

/-- Reads a pattern under the given flags: its items, and the flags after the pattern's own. -/
def read (flags : Flags) (pattern : String) : Except Rejection (List Item × Flags) :=
  let cs := pattern.toList
  let start : Reading := { next := none, rest := cs, index := 0, size := cs.length, flags }
  ((Reader.readPattern (6 * cs.length + 10)).run start).map (·.1)

end FieldRules.Pattern
