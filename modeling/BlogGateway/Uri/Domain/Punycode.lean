/-
Labels that are encoded in ASCII.

An encoded label holds its ASCII characters first and then, as numbers in a base of 36 with
digits of varying worth, which characters go where.  Decoding reads one digit after the
other; numbers that do not fit 32 bits are refused.
-/
import BlogGateway.Text.Pieces

namespace BlogGateway.Uri.Punycode

/-- The value of a digit. -/
def digit? (c : Char) : Option Nat :=
  if 'a' ≤ c && c ≤ 'z' then some (c.toNat - 'a'.toNat)
  else if Text.isDigit c then some (c.toNat - '0'.toNat + 26)
  else none

/-- The base of the numbers. -/
def base : Nat := 36

/-- The largest number. -/
def limit : Nat := 0xFFFFFFFF

/-- The digit at which a number ends, for the place that has the weight of `position`. -/
def threshold (position bias : Nat) : Nat := min 26 (max 1 (position - bias))

/-- Brings a difference into the range that the next bias is reckoned from; each round adds a
base to it. -/
def shrink (delta : Nat) (bias : Nat) : Nat × Nat :=
  if 455 < delta then shrink (delta / 35) (bias + base) else (delta, bias)
termination_by delta
decreasing_by omega

/-- The bias after a number, where `count` characters are there. -/
def adapt (delta count : Nat) (first : Bool) : Nat :=
  let delta := if first then delta / 700 else delta / 2
  let (delta, bias) := shrink (delta + delta / count) 0
  bias + 36 * delta / (delta + 38)

/-- What has been decoded so far, and the number that is being read. -/
structure State where
  decoded : List Char
  /-- The code point of the next character. -/
  code : Nat
  /-- Where the last character went, plus what has been read of the next number. -/
  index : Nat
  bias : Nat
  /-- Where the number began. -/
  start : Nat
  weight : Nat
  position : Nat

/-- The character of a code point, which may not be half of a pair. -/
def charOf? (code : Nat) : Option Char :=
  if code.isValidChar then some (Char.ofNat code) else none

/-- Puts the character of the number that has been read into its place. -/
def State.place (state : State) : Option State := do
  let count := state.decoded.length + 1
  let code := state.code + state.index / count
  let index := state.index % count
  let c ← charOf? code
  pure {
    decoded := state.decoded.take index ++ c :: state.decoded.drop index
    code := code
    index := index + 1
    bias := adapt (state.index - state.start) count (state.start = 0)
    start := index + 1
    weight := 1
    position := base }

/-- Reads digits up to the end, which may not be inside a number. -/
def readDigits (state : State) : List Char → Option (List Char)
  | [] => if state.position = base then some state.decoded else none
  | c :: s => do
    let digit ← digit? c
    let index := state.index + digit * state.weight
    if limit < index then none
    let threshold := threshold state.position state.bias
    let state := { state with index := index }
    if digit < threshold then
      let state ← state.place
      readDigits state s
    else
      let weight := state.weight * (base - threshold)
      if limit < weight then none
      readDigits { state with weight := weight, position := state.position + base } s

/-- The text of an encoded label without its mark. -/
def decode? (s : List Char) : Option (List Char) :=
  let digits := (s.reverse.takeWhile (· ≠ '-')).reverse
  let plain := s.take (s.length - digits.length - 1)
  if s.head? = some '-' && plain.isEmpty then none
  else readDigits
    { decoded := plain, code := 128, index := 0, bias := 72, start := 0, weight := 1,
      position := base } digits

end BlogGateway.Uri.Punycode
