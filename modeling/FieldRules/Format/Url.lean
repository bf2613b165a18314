import FieldRules.Format.Ipv6
import FieldRules.Text.Blank
import FieldRules.Text.Case

/-!
# URLs

A URL is accepted if it is not too long, has no blanks, its scheme is one of the two of the web and
its host is `localhost` or has a dot inside. The host is found in the authority, between the two
slashes and the first delimiter: it follows the last `@`, and a port may follow it.

The authority must be unambiguous. Brackets enclose an address and nothing else, and a character
that merely looks like a delimiter is refused, since others may read it as one.
-/

set_option autoImplicit false

namespace FieldRules.Format

/-- The longest URL. -/
def urlLimit : Nat := 2083

/-- The highest port. -/
def portLimit : Nat := 65535

/-- The characters that compatibility mapping turns into texts with a delimiter. -/
def delimiterLookalikes : Text.CodeSet := [
  0x2047, 0x204a, 0x2100, 0x2102, 0x2105, 0x2107, 0x2a74, 0x2a75, 0xfe13, 0xfe14, 0xfe16, 0xfe17,
  0xfe55, 0xfe57, 0xfe5f, 0xfe60, 0xfe6b, 0xfe6c, 0xff03, 0xff04, 0xff0f, 0xff10, 0xff1a, 0xff1b,
  0xff1f, 0xff21]

/-- A character of a scheme. -/
def isSchemeChar (c : Char) : Bool := c.isAlphanum || c == '+' || c == '-' || c == '.'

/-- The scheme of a URL, in small letters, and what follows it. -/
def splitScheme (cs : List Char) : List Char × List Char :=
  match Text.cutFirst? ':' cs with
  | some (first :: others, rest) =>
    if first.isAlpha && others.all isSchemeChar then ((first :: others).map Char.toLower, rest)
    else ([], cs)
  | _ => ([], cs)

/-- The authority: what stands between two slashes and the first delimiter. -/
def authorityOf (cs : List Char) : List Char :=
  match cs with
  | '/' :: '/' :: rest => rest.takeWhile fun c => !(c == '/' || c == '?' || c == '#')
  | _ => []

/-- The part of an authority after the last `@`. -/
def hostPart (authority : List Char) : List Char :=
  match Text.cutLast? '@' authority with
  | some (_, rest) => rest
  | none => authority

/-- The host and the port of an authority. -/
def hostAndPort (authority : List Char) : List Char × List Char :=
  let part := hostPart authority
  let portAfter (cs : List Char) : List Char := ((Text.cutFirst? ':' cs).map (·.2)).getD []
  match Text.cutFirst? '[' part with
  | some (_, bracketed) =>
    match Text.cutFirst? ']' bracketed with
    | some (host, rest) => (host, portAfter rest)
    | none => (bracketed, [])
  | none =>
    match Text.cutFirst? ':' part with
    | some (host, port) => (host, port)
    | none => (part, [])

/-- Whether the brackets of an authority, if there are any, enclose an address and nothing else. -/
def bracketsAreSound (authority : List Char) : Bool :=
  match authority.contains '[', authority.contains ']' with
  | false, false => true
  | true, true =>
    match Text.cutFirst? '[' (hostPart authority) with
    | some (before, bracketed) =>
      let (host, rest) := (Text.cutFirst? ']' bracketed).getD (bracketed, [])
      before.isEmpty && (rest.isEmpty || rest.head? = some ':') && isBracketedHost host
    | none => isBracketedHost (hostAndPort authority).1
  | _, _ => false

/-- Whether a port is missing or a number in range. -/
def isPort (port : List Char) : Bool :=
  port.isEmpty || (port.all Text.isAsciiDigit &&
    port.foldl (fun n c => 10 * n + (c.toNat - '0'.toNat)) 0 ≤ portLimit)

/-- A host in small letters, the zone of an address being left as it is. -/
def lowerHost (host : List Char) : String :=
  match Text.cutFirst? '%' host with
  | some (address, zone) =>
    Text.toLower (String.ofList address) ++ "%" ++ String.ofList zone
  | none => Text.toLower (String.ofList host)

/-- Whether a host is a name that can be reached on the web. -/
def isWebHost (host : List Char) : Bool :=
  let name := lowerHost host
  name == "localhost" || (Text.stripChar '.' name.toList).contains '.'

/-- Whether a text is the URL of a web resource. -/
def isUrl (text : String) : Bool :=
  let cs := text.toList
  if urlLimit < cs.length || cs.any Text.isBlank then false
  else
    let (scheme, rest) := splitScheme (cs.dropWhile fun c => c ≤ ' ')
    let authority := authorityOf rest
    let (host, port) := hostAndPort authority
    bracketsAreSound authority && !authority.any delimiterLookalikes.has && isPort port &&
    (scheme == "http".toList || scheme == "https".toList) && !host.isEmpty && isWebHost host

example : isUrl "http://u:p@example.com:8080/x" = true := by decide +kernel
example : isUrl "https://LOCALHOST" = true := by decide +kernel
example : isUrl "http://nodot" = false := by decide +kernel

end FieldRules.Format
