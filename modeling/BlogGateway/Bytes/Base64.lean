/-
Base 64.

Three bytes become four digits of six bits, and a group that is not full is padded to four
characters.  Reading is strict: the padding has to be there, and the bits that no byte uses
have to be zero, so that each byte string has one spelling.
-/
import BlogGateway.Bytes

namespace BlogGateway.Base64

/-- The value of a digit. -/
def value? (b : UInt8) : Option Nat :=
  if 0x41 ≤ b && b ≤ 0x5A then some (b.toNat - 0x41)
  else if 0x61 ≤ b && b ≤ 0x7A then some (b.toNat - 0x61 + 26)
  else if 0x30 ≤ b && b ≤ 0x39 then some (b.toNat - 0x30 + 52)
  else if b = 0x2B then some 62
  else if b = 0x2F then some 63
  else none

/-- The padding character. -/
abbrev padding : UInt8 := 0x3D

/-- The bytes of the last group, which may be padded. -/
def decodeLast (a b c d : UInt8) : Option Bytes := do
  let a ← value? a
  let b ← value? b
  if d = padding then
    if c = padding then
      if b % 16 = 0 then some [(a * 4 + b / 16).toUInt8] else none
    else
      let c ← value? c
      if c % 4 = 0 then
        some [(a * 4 + b / 16).toUInt8, (b % 16 * 16 + c / 4).toUInt8]
      else none
  else
    let c ← value? c
    let d ← value? d
    some [(a * 4 + b / 16).toUInt8, (b % 16 * 16 + c / 4).toUInt8, (c % 4 * 64 + d).toUInt8]

/-- The bytes that a text spells. -/
def decode? : Bytes → Option Bytes
  | [] => some []
  | [a, b, c, d] => decodeLast a b c d
  | a :: b :: c :: d :: s => do
    if c = padding || d = padding then none
    else
      let group ← decodeLast a b c d
      let rest ← decode? s
      pure (group ++ rest)
  | _ => none

end BlogGateway.Base64
