/-
Identifiers of 128 bits.

Notifications and push messages are named by such identifiers.  They are written as 32
lower-case hexadecimal digits in groups of 8, 4, 4, 4 and 12; reading also takes upper-case
digits, the digits without hyphens, and the two longer spellings with braces or with the
`urn:uuid:` prefix.
-/
import BlogGateway.Bytes

namespace BlogGateway

/-- An identifier of 128 bits. -/
structure Uuid where
  value : BitVec 128
  deriving DecidableEq, Repr, Inhabited

namespace Uuid

/-- The identifier that names nothing. -/
def nil : Uuid := ⟨0⟩

/-- The hexadecimal digits of the identifier, first to last. -/
def digits (id : Uuid) : Bytes :=
  (List.range 32).map fun i =>
    Ascii.hexDigit ((id.value.toNat / Nat.pow 16 (31 - i)) % 16).toUInt8

/-- The bytes of the written form. -/
def bytes (id : Uuid) : Bytes :=
  let digits := id.digits
  digits.take 8 ++ Ascii.minus :: (digits.drop 8).take 4 ++ Ascii.minus :: (digits.drop 12).take 4
    ++ Ascii.minus :: (digits.drop 16).take 4 ++ Ascii.minus :: digits.drop 20

/-- The written form. -/
def text (id : Uuid) : String :=
  String.ofList (id.bytes.map fun b => Char.ofNat b.toNat)

/-- The identifier that 32 hexadecimal digits spell. -/
def ofDigits? (digits : Bytes) : Option Uuid :=
  if digits.length = 32 then
    (digits.foldlM (fun (acc : Nat) b => (Ascii.hexValue? b).map (acc * 16 + ·.toNat)) 0).map
      fun n => ⟨BitVec.ofNat 128 n⟩
  else none

/-- The identifier that the hyphenated form spells. -/
def ofHyphenated? (s : Bytes) : Option Uuid :=
  if s.length = 36 && s[8]? == some Ascii.minus && s[13]? == some Ascii.minus
      && s[18]? == some Ascii.minus && s[23]? == some Ascii.minus then
    ofDigits? (s.take 8 ++ (s.drop 9).take 4 ++ (s.drop 14).take 4 ++ (s.drop 19).take 4
      ++ s.drop 24)
  else none

/-- Reads any of the accepted spellings. -/
def ofBytes? (s : Bytes) : Option Uuid :=
  if s.length = 32 then ofDigits? s
  else if s.length = 36 then ofHyphenated? s
  else if s.length = 38 then
    if s.head? == some Ascii.openBrace && s.getLast? == some Ascii.closeBrace then
      ofHyphenated? ((s.drop 1).take 36)
    else none
  else if s.length = 45 then
    if s.take 9 == Bytes.ofText "urn:uuid:" then ofHyphenated? (s.drop 9) else none
  else none

/-- Reads any of the accepted spellings of a text. -/
def ofText? (s : String) : Option Uuid := ofBytes? (Bytes.ofText s)

end Uuid

end BlogGateway
