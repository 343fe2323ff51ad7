/-
Hexadecimal text.

Every byte is two digits, written in lower case and read in either case.
-/
import BlogGateway.Bytes
import BlogGateway.Text.Quoted

namespace BlogGateway.Hex

/-- The two digits of each byte. -/
def encode (bytes : Bytes) : Bytes :=
  bytes.flatMap fun b => [Ascii.hexDigit (b / 16), Ascii.hexDigit (b % 16)]

/-- The digits as text. -/
def text (bytes : Bytes) : String :=
  String.ofList ((encode bytes).map fun b => Char.ofNat b.toNat)

/-- Why a text is not hexadecimal. -/
inductive Error
  | oddLength
  /-- The byte at the given position is no digit. -/
  | invalidDigit (byte : UInt8) (position : Nat)
  deriving DecidableEq, Repr

/-- The text of an error; a byte is shown as the character with its number. -/
def Error.message : Error → String
  | .oddLength => "Odd number of digits"
  | .invalidDigit byte position =>
    s!"Invalid character {Text.quotedChar (Char.ofNat byte.toNat)} at position {position}"

/-- Reads pairs of digits; `position` counts the bytes before them. -/
def decodeFrom (position : Nat) : Bytes → Except Error Bytes
  | [] => .ok []
  | [_] => .error .oddLength
  | a :: b :: s =>
    match Ascii.hexValue? a, Ascii.hexValue? b with
    | none, _ => .error (.invalidDigit a position)
    | _, none => .error (.invalidDigit b (position + 1))
    | some high, some low => do
      let rest ← decodeFrom (position + 2) s
      pure ((high * 16 + low) :: rest)

/-- The bytes that a text spells; its length is looked at before its digits. -/
def decode (s : Bytes) : Except Error Bytes :=
  if s.length % 2 = 0 then decodeFrom 0 s else .error .oddLength

end BlogGateway.Hex
