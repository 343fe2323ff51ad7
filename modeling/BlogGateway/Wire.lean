/-
The canonical bytes.

What is signed is not JSON but a compact binary form: whole numbers of fixed width with the
low byte first, counts and codes in groups of seven bits, and texts with their length in
front.  Every item tells where it ends, so a sequence of items can be taken apart in one way
only.
-/
import BlogGateway.Bytes

namespace BlogGateway.Wire

/-- A number in groups of seven bits, low group first; the high bit of a byte says that
another group follows. -/
def varint (n : Nat) : Bytes :=
  if n < 128 then [n.toUInt8] else (n % 128 + 128).toUInt8 :: varint (n / 128)

/-- The two bytes of a number, low byte first. -/
def uint16 (n : UInt16) : Bytes := [n.toUInt8, (n >>> 8).toUInt8]

/-- The four bytes of a number, low byte first. -/
def uint32 (n : UInt32) : Bytes :=
  [n.toUInt8, (n >>> 8).toUInt8, (n >>> 16).toUInt8, (n >>> 24).toUInt8]

/-- One byte, zero or one. -/
def flag (value : Bool) : Bytes := [if value then 1 else 0]

/-- A byte string behind its length. -/
def prefixed (content : Bytes) : Bytes := varint content.length ++ content

/-- The UTF-8 bytes of a text behind their length. -/
def text (value : String) : Bytes := prefixed (Bytes.ofText value)

/-- One item of the canonical bytes. -/
inductive Item
  | varint (value : UInt64)
  | uint16 (value : UInt16)
  | uint32 (value : UInt32)
  | flag (value : Bool)
  | text (value : String)
  deriving DecidableEq, Repr

/-- The bytes of an item. -/
def Item.encode : Item → Bytes
  | .varint value => Wire.varint value.toNat
  | .uint16 value => Wire.uint16 value
  | .uint32 value => Wire.uint32 value
  | .flag value => Wire.flag value
  | .text value => Wire.text value

/-- Puts a number behind the bytes that are there, one group of seven bits after the other; the
high bit is set as long as bits are left. -/
def pushVarint (buffer : Bytes) (value : UInt64) : Bytes :=
  let group := (value &&& 0x7F).toUInt8
  let left := value >>> 7
  if left = 0 then buffer ++ [group] else pushVarint (buffer ++ [group ||| 0x80]) left
termination_by value.toNat
decreasing_by
  have more : left.toNat ≠ 0 := fun h => ‹¬ left = 0› (UInt64.toNat_inj.mp h)
  simp only [left, UInt64.toNat_shiftRight, UInt64.reduceToNat, Nat.reduceMod,
    Nat.shiftRight_eq_div_pow] at more ⊢
  omega

/-- Adds an item to the bytes that are there already. -/
def append (buffer : Bytes) : Item → Bytes
  | .varint value => pushVarint buffer value
  | item => buffer ++ item.encode

end BlogGateway.Wire
