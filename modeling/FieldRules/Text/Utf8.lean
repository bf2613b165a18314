/-!
# Reading UTF-8

Bytes are read as characters; where they encode none, a replacement character stands for the longest
piece that might have begun one.
-/

set_option autoImplicit false

namespace FieldRules.Text

/-- How many bytes follow a first byte, and the bounds of the second one. No byte follows those that
begin no character. -/
def continuation? (first : Nat) : Option (Nat × Nat × Nat) :=
  if 0xc2 ≤ first && first ≤ 0xdf then some (1, 0x80, 0xbf)
  else if first = 0xe0 then some (2, 0xa0, 0xbf)
  else if first = 0xed then some (2, 0x80, 0x9f)
  else if 0xe1 ≤ first && first ≤ 0xef then some (2, 0x80, 0xbf)
  else if first = 0xf0 then some (3, 0x90, 0xbf)
  else if 0xf1 ≤ first && first ≤ 0xf3 then some (3, 0x80, 0xbf)
  else if first = 0xf4 then some (3, 0x80, 0x8f)
  else none

/-- A character that is being read: how many bytes are missing, the bounds of the next one, and the
value so far. -/
structure Pending where
  missing : Nat
  low : Nat
  high : Nat
  value : Nat

/-- What a first byte comes to: a character, or one that is pending. -/
def beginUtf8 (first : Nat) : List Char × Option Pending :=
  if first < 0x80 then ([Char.ofNat first], none)
  else match continuation? first with
    | some (missing, low, high) => ([], some ⟨missing, low, high, first % (64 >>> missing)⟩)
    | none => (['\ufffd'], none)

/-- Reads bytes, the first of which may belong to a pending character. -/
def readUtf8 : Option Pending → List UInt8 → List Char
  | none, [] => []
  | some _, [] => ['\ufffd']
  | none, b :: rest =>
    let (out, pending) := beginUtf8 b.toNat
    out ++ readUtf8 pending rest
  | some p, b :: rest =>
    if p.low ≤ b.toNat && b.toNat ≤ p.high then
      let value := p.value * 64 + b.toNat % 64
      if p.missing = 1 then Char.ofNat value :: readUtf8 none rest
      else readUtf8 (some ⟨p.missing - 1, 0x80, 0xbf, value⟩) rest
    else
      let (out, pending) := beginUtf8 b.toNat
      '\ufffd' :: out ++ readUtf8 pending rest

/-- The text that bytes encode. -/
def ofUtf8 (bytes : List UInt8) : String := String.ofList (readUtf8 none bytes)

example : ofUtf8 [0x61, 0xc3, 0xa9, 0xf0, 0x9f, 0x98, 0x80] = "aé😀" := by decide +kernel
example : ofUtf8 [0xff, 0xe2, 0x82, 0x41] = "\ufffd\ufffdA" := by decide +kernel

end FieldRules.Text
