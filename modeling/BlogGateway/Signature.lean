/-
Signatures and the keys that made them.

A signature is 65 bytes in hexadecimal: a header that helps to find the key, and the two
numbers of the signature.  From it and the signed hash the key follows; a signature is good
for an account when that key is one of the account's.
-/
import BlogGateway.Bytes.Number
import BlogGateway.Crypto.Secp256k1
import BlogGateway.Digest

namespace BlogGateway

/-- A public key in its compressed form: 33 bytes. -/
structure PublicKey where
  bytes : Bytes
  length_eq : bytes.length = 33
  deriving DecidableEq, Repr

namespace PublicKey

/-- The key with the given bytes, or how many there were. -/
def ofBytes (bytes : Bytes) : Except Nat PublicKey :=
  if h : bytes.length = 33 then .ok ⟨bytes, h⟩ else .error bytes.length

/-- The text that reports a wrong number of bytes. -/
def lengthMessage (count : Nat) : String := s!"public key must be 33 bytes, got {count}"

/-- The bytes of a number in a fixed width are that many. -/
theorem length_ofNatWidth (width n : Nat) : (Bytes.ofNatWidth width n).length = width := by
  induction width with
  | zero => rfl
  | succ width ih => simp [Bytes.ofNatWidth, ih]

/-- The compressed form of a point: whether the second coordinate is odd, and the first. -/
def ofPoint (x y : Nat) : PublicKey :=
  ⟨(if y % 2 = 0 then 2 else 3) :: Bytes.ofNatWidth 32 x, by simp [length_ofNatWidth]⟩

/-- A key as it is shown in reports. -/
def describe (key : PublicKey) : String := s!"PublicKey({Hex.text key.bytes})"

end PublicKey

namespace Signature

/-- How many hexadecimal digits a signature has. -/
def hexLength : Nat := 130

/-- The header of the first of the four kinds of signature. -/
def headerBase : UInt8 := 31

/-- The largest difference from the base that is looked up among the kinds. -/
def maxRecoveryId : UInt8 := 4

/-- A kind of signature: whether the second coordinate of its point is odd, and whether the first
was reduced by the order. -/
structure RecoveryId where
  odd : Bool
  reduced : Bool
  deriving DecidableEq, Repr

/-- The kind of the given number, if there is one. -/
def RecoveryId.ofByte? (id : UInt8) : Option RecoveryId :=
  if 3 < id then none else some ⟨id % 2 = 1, 2 ≤ id⟩

/-- What finds the point of a key: from a hash as a number, the two numbers of a signature, and the
two parts of its kind. -/
abbrev Curve := Nat → Nat → Nat → Bool → Bool → Except Secp256k1.RecoveryFailure (Nat × Nat)

/-- Why no key can be found for a signature. -/
inductive Error
  /-- The text does not have the right number of bytes. -/
  | length (count : Nat)
  | notHex (cause : Hex.Error)
  /-- The header is none of the four. -/
  | header (byte : UInt8)
  | recovery
  deriving DecidableEq, Repr

/-- The text of an error. -/
def Error.message : Error → String
  | .length count => s!"signature must be 130 hex characters, got {count}"
  | .notHex cause => s!"failed to decode signature hex: {cause.message}"
  | .header byte => s!"recovery id out of range (header byte {byte.toNat})"
  | .recovery => "public key recovery failed"

/-- The key that made the signature with the given bytes over a hash. -/
def recoverBytes (curve : Curve) (digest : Digest) : Bytes → Except Error PublicKey
  | [] => .error (.length hexLength)
  | header :: numbers =>
    -- below the base the difference wraps around to a large number
    let id := header - headerBase
    if maxRecoveryId < id then .error (.header header)
    else
      match RecoveryId.ofByte? id with
      | none => .error (.header header)
      | some id =>
        let r := Bytes.toNat (numbers.take 32)
        let s := Bytes.toNat (numbers.drop 32)
        match curve (Bytes.toNat digest) r s id.odd id.reduced with
        | .ok (x, y) => .ok (.ofPoint x y)
        | .error _ => .error .recovery

/-- The key that made a signature over a hash, on the given curve. -/
def recoverOn (curve : Curve) (digest : Digest) (signature : String) : Except Error PublicKey :=
  let text := Bytes.ofText signature
  if text.length ≠ hexLength then .error (.length text.length)
  else match Hex.decode text with
    | .error cause => .error (.notHex cause)
    | .ok bytes => recoverBytes curve digest bytes

/-- The key that made a signature over a hash. -/
def recover (digest : Digest) (signature : String) : Except Error PublicKey :=
  recoverOn Secp256k1.recover digest signature

/-- Whether a signature over a hash was made with one of the keys. -/
def verifyAny (keys : List PublicKey) (signature : String) (digest : Digest) : Bool :=
  match recover digest signature with
  | .ok key => keys.contains key
  | .error _ => false

end Signature

end BlogGateway
