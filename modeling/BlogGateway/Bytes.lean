/-
Byte strings.

Everything the gateway hashes, signs or receives over the wire is a list of bytes.  Texts
enter and leave that world through their UTF-8 bytes, and `toText?` undoes `ofText`, so
nothing about a text is lost on the way.
-/
namespace BlogGateway

/-- A string of bytes, first byte first. -/
abbrev Bytes := List UInt8

namespace Bytes

/-- The UTF-8 bytes of a text. -/
def ofText (text : String) : Bytes := text.toUTF8.data.toList

/-- The text whose UTF-8 bytes these are, if there is one. -/
def toText? (bytes : Bytes) : Option String := String.fromUTF8? ⟨bytes.toArray⟩

theorem toText?_ofText (text : String) : toText? (ofText text) = some text := by
  change String.fromUTF8? text.toUTF8 = some text
  unfold String.fromUTF8?
  rw [String.toUTF8_eq_toByteArray, dif_pos text.isValidUTF8]
  rfl

theorem ofText_injective {s t : String} (h : ofText s = ofText t) : s = t := by
  have := congrArg toText? h
  simpa [toText?_ofText] using this

end Bytes

/-! ### The ASCII bytes that the text formats give a meaning -/

namespace Ascii

/-- The byte of an ASCII character. -/
abbrev byte (c : Char) : UInt8 := c.toNat.toUInt8

@[match_pattern] abbrev quote : UInt8 := 0x22
@[match_pattern] abbrev plus : UInt8 := 0x2B
@[match_pattern] abbrev comma : UInt8 := 0x2C
@[match_pattern] abbrev minus : UInt8 := 0x2D
@[match_pattern] abbrev point : UInt8 := 0x2E
@[match_pattern] abbrev slash : UInt8 := 0x2F
@[match_pattern] abbrev zero : UInt8 := 0x30
@[match_pattern] abbrev colon : UInt8 := 0x3A
@[match_pattern] abbrev openBracket : UInt8 := 0x5B
@[match_pattern] abbrev backslash : UInt8 := 0x5C
@[match_pattern] abbrev closeBracket : UInt8 := 0x5D
@[match_pattern] abbrev lowerB : UInt8 := 0x62
@[match_pattern] abbrev lowerE : UInt8 := 0x65
@[match_pattern] abbrev upperE : UInt8 := 0x45
@[match_pattern] abbrev lowerF : UInt8 := 0x66
@[match_pattern] abbrev lowerN : UInt8 := 0x6E
@[match_pattern] abbrev lowerR : UInt8 := 0x72
@[match_pattern] abbrev lowerT : UInt8 := 0x74
@[match_pattern] abbrev lowerU : UInt8 := 0x75
@[match_pattern] abbrev openBrace : UInt8 := 0x7B
@[match_pattern] abbrev closeBrace : UInt8 := 0x7D

/-- The decimal digits. -/
def isDigit (b : UInt8) : Bool := 0x30 ≤ b && b ≤ 0x39

/-- The value of a hexadecimal digit of either case. -/
def hexValue? (b : UInt8) : Option UInt8 :=
  if isDigit b then some (b - 0x30)
  else if 0x61 ≤ b && b ≤ 0x66 then some (b - 0x61 + 10)
  else if 0x41 ≤ b && b ≤ 0x46 then some (b - 0x41 + 10)
  else none

/-- The lower-case hexadecimal digit of a value below sixteen. -/
def hexDigit (value : UInt8) : UInt8 :=
  if value < 10 then value + 0x30 else value - 10 + 0x61

end Ascii

end BlogGateway
