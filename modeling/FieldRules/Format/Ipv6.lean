import FieldRules.Text.Digit
import FieldRules.Text.Split

/-!
# Addresses in brackets

The host of a URL may be an address in brackets: an IPv6 address, or an address of some future
version after the letter v. An IPv6 address is eight groups of hexadecimal digits, a double colon
standing for the groups left out; the last two groups may be written as an IPv4 address, and a zone
may follow.
-/

set_option autoImplicit false

namespace FieldRules.Format

/-- Whether a piece is a number up to 255 without leading zeros. -/
def isOctet (piece : List Char) : Bool :=
  match piece with
  | [] => false
  | first :: rest =>
    piece.all Text.isAsciiDigit && piece.length ≤ 3 && (first != '0' || rest.isEmpty) &&
    piece.foldl (fun n c => 10 * n + (c.toNat - '0'.toNat)) 0 ≤ 255

/-- Whether a text is an IPv4 address. -/
def isIpv4 (cs : List Char) : Bool :=
  let octets := Text.pieces '.' cs
  octets.length == 4 && octets.all isOctet

/-- Whether a piece is a group of an IPv6 address. -/
def isGroup (piece : List Char) : Bool :=
  !piece.isEmpty && piece.length ≤ 4 && piece.all Text.isHexDigit

/-- The pieces with an IPv4 address at the end written as two groups. -/
def expandIpv4? (parts : List (List Char)) : Option (List (List Char)) :=
  match parts.getLast? with
  | some last =>
    if last.contains '.' then
      if isIpv4 last then some (parts.dropLast ++ [['0'], ['0']]) else none
    else some parts
  | none => none

/-- Whether the pieces around a double colon make an address: the groups before and after it, at
most seven. An empty piece at either end is part of a double colon there. -/
def areAround (before after : List (List Char)) : Bool :=
  let before := if before == [[]] then [] else before
  let after := if after == [[]] then [] else after
  before.all isGroup && after.all isGroup && before.length + after.length ≤ 7

/-- Whether the pieces between colons make an address. The double colon is the empty piece with
pieces on both sides; a second one is refused as being no group. -/
def areGroups (parts : List (List Char)) : Bool :=
  match parts with
  | [] => false
  | first :: rest =>
    let inner := rest.dropLast
    match inner.idxOf? [] with
    | some k => areAround (first :: inner.take k) (rest.drop (k + 1))
    | none => parts.length == 8 && parts.all isGroup

/-- Whether a text is an IPv6 address. -/
def isIpv6 (cs : List Char) : Bool :=
  let zoned := match Text.cutFirst? '%' cs with
    | some (address, zone) => if zone.isEmpty || zone.contains '%' then none else some address
    | none => some cs
  match zoned with
  | none => false
  | some address =>
    if address.contains '/' then false
    else
      let parts := Text.pieces ':' address
      if parts.length < 3 then false
      else match expandIpv4? parts with
        | some groups => groups.length ≤ 9 && areGroups groups
        | none => false

/-- Whether a text is an address of a future version. -/
def isFutureAddress (cs : List Char) : Bool :=
  match cs with
  | 'v' :: rest =>
    let version := rest.takeWhile Text.isHexDigit
    match rest.dropWhile Text.isHexDigit with
    | '.' :: address => !version.isEmpty && !address.isEmpty && !address.contains '\n'
    | _ => false
  | _ => false

/-- Whether a text may stand in brackets. -/
def isBracketedHost (cs : List Char) : Bool :=
  if cs.head? = some 'v' then isFutureAddress cs else isIpv6 cs

example : isIpv6 "::ffff:1.2.3.4".toList = true := by decide +kernel
example : isIpv6 "1::2::3".toList = false := by decide +kernel
example : isIpv6 "::".toList = true := by decide +kernel

end FieldRules.Format
