/-
Internet addresses as text.

A version 4 address is four decimal numbers, a version 6 address eight groups of up to four
hexadecimal digits, of which one run of zero groups may be left out and the last two may be
written as a version 4 address.  Writing always takes the shortest form.
-/
import BlogGateway.Text.Pieces

namespace BlogGateway.Net

/-- A version 4 address, as four bytes. -/
structure Ipv4 where
  bytes : List UInt8
  deriving DecidableEq, Repr

/-- A version 6 address, as eight groups of sixteen bits. -/
structure Ipv6 where
  groups : List UInt16
  deriving DecidableEq, Repr

/-- An address of either version. -/
inductive Address
  | v4 (address : Ipv4)
  | v6 (address : Ipv6)
  deriving DecidableEq, Repr

/-- Reads one number of a version 4 address: at most 255, and without leading zeros. -/
def byte? (piece : List Char) : Option UInt8 :=
  match piece with
  | [] => none
  | ['0'] => some 0
  | '0' :: _ => none
  | piece =>
    if piece.length ≤ 3 then
      match Text.number? 10 piece with
      | some n => if n ≤ 255 then some n.toUInt8 else none
      | none => none
    else none

/-- Reads a version 4 address. -/
def Ipv4.ofChars? (s : List Char) : Option Ipv4 :=
  match Text.pieces '.' s with
  | [a, b, c, d] => do
    let a ← byte? a
    let b ← byte? b
    let c ← byte? c
    let d ← byte? d
    pure ⟨[a, b, c, d]⟩
  | _ => none

/-- Reads one group of a version 6 address. -/
def group? (piece : List Char) : Option UInt16 :=
  if piece.isEmpty || 4 < piece.length then none
  else (Text.number? 16 piece).map (·.toUInt16)

/-- The two groups that a version 4 address takes. -/
def Ipv4.groups (address : Ipv4) : List UInt16 :=
  match address.bytes with
  | [a, b, c, d] =>
    [(a.toNat * 256 + b.toNat).toUInt16, (c.toNat * 256 + d.toNat).toUInt16]
  | _ => []

/-- Reads the groups between colons; the last may be a version 4 address when `mixed`. -/
def groupsOf? (mixed : Bool) : List (List Char) → Option (List UInt16)
  | [] => some []
  | [piece] =>
    match group? piece with
    | some group => some [group]
    | none => if mixed then (Ipv4.ofChars? piece).map Ipv4.groups else none
  | piece :: rest => do
    let group ← group? piece
    let groups ← groupsOf? mixed rest
    pure (group :: groups)

/-- Reads groups between colons, where nothing at all is no group. -/
def groups? (mixed : Bool) (s : List Char) : Option (List UInt16) :=
  if s.isEmpty then some [] else groupsOf? mixed (Text.pieces ':' s)

/-- Reads a version 6 address. -/
def Ipv6.ofChars? (s : List Char) : Option Ipv6 :=
  match Text.cutAtPair? ':' s with
  | some (left, right) => do
    let head ← groups? false left
    let tail ← groups? true right
    let given := head.length + tail.length
    if given ≤ 7 then some ⟨head ++ List.replicate (8 - given) 0 ++ tail⟩ else none
  | none => do
    let groups ← groupsOf? true (Text.pieces ':' s)
    if groups.length = 8 then some ⟨groups⟩ else none

/-- Reads an address of either version. -/
def Address.ofText? (text : String) : Option Address :=
  match Ipv4.ofChars? text.toList with
  | some address => some (.v4 address)
  | none => (Ipv6.ofChars? text.toList).map .v6

/-! ### Writing -/

/-- A version 4 address as text. -/
def Ipv4.text (address : Ipv4) : String :=
  ".".intercalate (address.bytes.map fun b => toString b.toNat)

/-- A group as text, without leading zeros. -/
def groupText (group : UInt16) : String := String.ofList (Nat.toDigits 16 group.toNat)

/-- Start and length of the first of the longest runs of zeros; `start` and `length` describe
the run that is open, and `best` the best one so far. -/
def longestZeros (index start length : Nat) (best : Nat × Nat) : List UInt16 → Nat × Nat
  | [] => best
  | group :: rest =>
    if group = 0 then
      let start := if length = 0 then index else start
      let length := length + 1
      longestZeros (index + 1) start length
        (if best.2 < length then (start, length) else best) rest
    else longestZeros (index + 1) 0 0 best rest

/-- A version 6 address as text: the longest run of at least two zero groups is left out, and
an embedded version 4 address is shown as one. -/
def Ipv6.text (address : Ipv6) : String :=
  match address.groups with
  | [0, 0, 0, 0, 0, 0xFFFF, high, low] =>
    let bytes := [(high >>> 8).toUInt8, high.toUInt8, (low >>> 8).toUInt8, low.toUInt8]
    "::ffff:" ++ (Ipv4.mk bytes).text
  | groups =>
    let (start, length) := longestZeros 0 0 0 (0, 0) groups
    let join (part : List UInt16) := ":".intercalate (part.map groupText)
    if 1 < length then join (groups.take start) ++ "::" ++ join (groups.drop (start + length))
    else join groups

/-- An address with a port. -/
def Address.withPort (address : Address) (port : UInt16) : String :=
  match address with
  | .v4 address => address.text ++ ":" ++ toString port.toNat
  | .v6 address => "[" ++ address.text ++ "]:" ++ toString port.toNat

end BlogGateway.Net
