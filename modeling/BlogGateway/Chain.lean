/-
The chain that signatures belong to.

Every signed byte string begins with the id of a chain, so that what was signed for one chain
means nothing on another.
-/
import BlogGateway.Bytes.Hex

namespace BlogGateway

/-- The id of a chain: 32 bytes. -/
structure ChainId where
  bytes : Bytes
  length_eq : bytes.length = 32
  deriving DecidableEq, Repr

namespace ChainId

/-- Why a text is no chain id. -/
inductive Error
  | notHex (cause : Hex.Error)
  | length (count : Nat)
  deriving DecidableEq, Repr

/-- The text of an error. -/
def Error.message : Error → String
  | .notHex cause => s!"chain id is not hex: {cause.message}"
  | .length count => s!"chain id must be 32 bytes, got {count}"

/-- Reads a chain id from its hexadecimal text. -/
def ofHex (text : String) : Except Error ChainId :=
  match Hex.decode (Bytes.ofText text) with
  | .error cause => .error (.notHex cause)
  | .ok bytes => if h : bytes.length = 32 then .ok ⟨bytes, h⟩ else .error (.length bytes.length)

/-- The id of the main chain. -/
def mainnet : ChainId :=
  ⟨[0xdb, 0x40, 0x07, 0xd4, 0x5f, 0x04, 0xc1, 0x40, 0x3a, 0x7e, 0x66, 0xa5, 0xc6, 0x6b, 0x5b, 0x1c,
    0xdf, 0xc2, 0xdd, 0xe8, 0xb5, 0x33, 0x5d, 0x1d, 0x2f, 0x11, 0x6d, 0x59, 0x2c, 0xa3, 0xdb, 0xb1],
   by decide⟩

/-- The id of the chain for tests. -/
def testnet : ChainId :=
  ⟨[0xd3, 0xc1, 0xf1, 0x9a, 0x49, 0x47, 0xc2, 0x96, 0x44, 0x65, 0x83, 0xf9, 0x88, 0xc4, 0x3f, 0xd1,
    0xa8, 0x38, 0x18, 0xfa, 0xba, 0xf3, 0x45, 0x4a, 0x00, 0x20, 0x19, 0x8c, 0xb3, 0x61, 0xeb, 0xd2],
   by decide⟩

/-- A chain id as text. -/
def text (chain : ChainId) : String := Hex.text chain.bytes

/-- A chain id as it is shown in reports. -/
def describe (chain : ChainId) : String := s!"ChainId({chain.text})"

end ChainId

end BlogGateway
