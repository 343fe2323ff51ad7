/-
Base 58.

Keys are shown to people in digits and letters without those that look alike.  The bytes are
one large number, except that leading zero bytes, which a number cannot show, are written as
leading ones.
-/
import BlogGateway.Bytes.Number

namespace BlogGateway.Base58

/-- The digits, in the order of their values. -/
def alphabet : Bytes :=
  Bytes.ofText "123456789ABCDEFGHJKLMNPQRSTUVWXYZabcdefghijkmnopqrstuvwxyz"

/-- The digit that stands for zero. -/
abbrev zeroDigit : UInt8 := 0x31

/-- The value of a digit. -/
def value? (b : UInt8) : Option Nat := alphabet.findIdx? (· = b)

/-- The digit of a value below 58. -/
def digit (value : Nat) : UInt8 := alphabet.getD value zeroDigit

/-- The bytes that a text spells. -/
def decode? (s : Bytes) : Option Bytes := do
  let values ← s.mapM value?
  let zeros := (s.takeWhile (· = zeroDigit)).length
  pure (List.replicate zeros 0 ++ Bytes.ofNat (Bytes.ofDigits 58 values))

/-- The text of a byte string. -/
def encode (bytes : Bytes) : Bytes :=
  let zeros := (bytes.takeWhile (· = 0)).length
  List.replicate zeros zeroDigit ++ (Bytes.digits 58 bytes.toNat).map digit

end BlogGateway.Base58
