/-
The SHA-256 hash.

A message is padded to blocks of 64 bytes, and each block is mixed into a state of eight
words in sixty-four rounds.  The constants are the first bits of the fractional parts of the
roots of the first primes.
-/
import BlogGateway.Bytes

namespace BlogGateway.Sha256

/-- The eight words of the state. -/
structure State where
  a : UInt32
  b : UInt32
  c : UInt32
  d : UInt32
  e : UInt32
  f : UInt32
  g : UInt32
  h : UInt32
  deriving DecidableEq, Repr

/-- The state before the first block. -/
def initial : State :=
  ⟨0x6a09e667, 0xbb67ae85, 0x3c6ef372, 0xa54ff53a,
   0x510e527f, 0x9b05688c, 0x1f83d9ab, 0x5be0cd19⟩

/-- The word that each round adds. -/
def roundConstants : List UInt32 := [
   0x428a2f98, 0x71374491, 0xb5c0fbcf, 0xe9b5dba5, 0x3956c25b, 0x59f111f1, 0x923f82a4, 0xab1c5ed5,
   0xd807aa98, 0x12835b01, 0x243185be, 0x550c7dc3, 0x72be5d74, 0x80deb1fe, 0x9bdc06a7, 0xc19bf174,
   0xe49b69c1, 0xefbe4786, 0x0fc19dc6, 0x240ca1cc, 0x2de92c6f, 0x4a7484aa, 0x5cb0a9dc, 0x76f988da,
   0x983e5152, 0xa831c66d, 0xb00327c8, 0xbf597fc7, 0xc6e00bf3, 0xd5a79147, 0x06ca6351, 0x14292967,
   0x27b70a85, 0x2e1b2138, 0x4d2c6dfc, 0x53380d13, 0x650a7354, 0x766a0abb, 0x81c2c92e, 0x92722c85,
   0xa2bfe8a1, 0xa81a664b, 0xc24b8b70, 0xc76c51a3, 0xd192e819, 0xd6990624, 0xf40e3585, 0x106aa070,
   0x19a4c116, 0x1e376c08, 0x2748774c, 0x34b0bcb5, 0x391c0cb3, 0x4ed8aa4a, 0x5b9cca4f, 0x682e6ff3,
   0x748f82ee, 0x78a5636f, 0x84c87814, 0x8cc70208, 0x90befffa, 0xa4506ceb, 0xbef9a3f7, 0xc67178f2]

/-- Turns a word to the right. -/
def rotate (x : UInt32) (n : UInt32) : UInt32 := (x >>> n) ||| (x <<< (32 - n))

/-- The next word of a schedule from the sixteen before it, oldest first. -/
def nextWord (window : List UInt32) : UInt32 :=
  let x := window.getD 1 0
  let y := window.getD 14 0
  window.getD 0 0 + (rotate x 7 ^^^ rotate x 18 ^^^ (x >>> 3)) + window.getD 9 0
    + (rotate y 17 ^^^ rotate y 19 ^^^ (y >>> 10))

/-- The words of a schedule from a window of sixteen words on. -/
def schedule : Nat → List UInt32 → List UInt32
  | 0, _ => []
  | n + 1, window => window.headD 0 :: schedule n (window.drop 1 ++ [nextWord window])

/-- One round. -/
def round (s : State) (word constant : UInt32) : State :=
  let mix := rotate s.e 6 ^^^ rotate s.e 11 ^^^ rotate s.e 25
  let choice := (s.e &&& s.f) ^^^ (~~~s.e &&& s.g)
  let first := s.h + mix + choice + constant + word
  let turn := rotate s.a 2 ^^^ rotate s.a 13 ^^^ rotate s.a 22
  let majority := (s.a &&& s.b) ^^^ (s.a &&& s.c) ^^^ (s.b &&& s.c)
  ⟨first + (turn + majority), s.a, s.b, s.c, s.d + first, s.e, s.f, s.g⟩

/-- The words of a block, high byte first. -/
def words : Bytes → List UInt32
  | a :: b :: c :: d :: s =>
    ((a.toUInt32 <<< 24) ||| (b.toUInt32 <<< 16) ||| (c.toUInt32 <<< 8) ||| d.toUInt32) :: words s
  | _ => []

/-- Mixes one block into the state. -/
def compress (s : State) (block : Bytes) : State :=
  let t := (List.zip (schedule 64 (words block)) roundConstants).foldl
    (fun t (word, constant) => round t word constant) s
  ⟨s.a + t.a, s.b + t.b, s.c + t.c, s.d + t.d, s.e + t.e, s.f + t.f, s.g + t.g, s.h + t.h⟩

/-- The bytes of a number of 64 bits, high byte first. -/
def lengthBytes (n : Nat) : Bytes :=
  (List.range 8).map fun i => (n / Nat.pow 256 (7 - i)).toUInt8

/-- The message with a one bit, zeros up to a full block, and its length in bits. -/
def pad (message : Bytes) : Bytes :=
  message ++ 0x80 :: List.replicate ((119 - message.length % 64) % 64) 0
    ++ lengthBytes (message.length * 8)

/-- Mixes block after block into the state; `count` blocks are left. -/
def absorb : Nat → State → Bytes → State
  | 0, s, _ => s
  | count + 1, s, bytes => absorb count (compress s (bytes.take 64)) (bytes.drop 64)

/-- The bytes of a word, high byte first. -/
def wordBytes (x : UInt32) : Bytes :=
  [(x >>> 24).toUInt8, (x >>> 16).toUInt8, (x >>> 8).toUInt8, x.toUInt8]

/-- The 32 bytes of the hash. -/
def digest (message : Bytes) : Bytes :=
  let padded := pad message
  let s := absorb (padded.length / 64) initial padded
  [s.a, s.b, s.c, s.d, s.e, s.f, s.g, s.h].flatMap wordBytes

end BlogGateway.Sha256
