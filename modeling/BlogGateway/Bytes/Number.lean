/-
Numbers as byte strings.

A byte string read with its high byte first is a number; written back with a fixed width, or
without leading zeros.
-/
import BlogGateway.Bytes

namespace BlogGateway.Bytes

/-- The number that digits of a base spell, high digit first. -/
def ofDigits (base : Nat) (digits : List Nat) : Nat :=
  digits.foldl (fun acc digit => acc * base + digit) 0

/-- The digits of a number below those of `done`, low digit last; as many steps as `fuel`. -/
def digitsOnto (base : Nat) : Nat → Nat → List Nat → List Nat
  | 0, _, done => done
  | fuel + 1, n, done =>
    if n = 0 then done else digitsOnto base fuel (n / base) (n % base :: done)

/-- The digits of a number in a base of at least two, high digit first, without leading
zeros; zero has none. -/
def digits (base n : Nat) : List Nat := digitsOnto base (n.log2 + 1) n []

/-- The number that the bytes spell, high byte first. -/
def toNat (bytes : Bytes) : Nat := ofDigits 256 (bytes.map UInt8.toNat)

/-- The bytes of a number, high byte first, without leading zeros. -/
def ofNat (n : Nat) : Bytes := (digits 256 n).map Nat.toUInt8

/-- The low bytes of a number in the given width, high byte first. -/
def ofNatWidth : Nat → Nat → Bytes
  | 0, _ => []
  | width + 1, n => (n / Nat.pow 256 width).toUInt8 :: ofNatWidth width n

end BlogGateway.Bytes
