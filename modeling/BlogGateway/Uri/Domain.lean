/-
Domain names in the host part of a link.

A domain may be written with percent escapes and with letters of any script.  It is decoded,
put into lower case and checked label by label; what is left has an ASCII form that the
network understands.  A domain whose last label is a number is an address of version 4.
-/
import BlogGateway.Bytes
import BlogGateway.Net.Address
import BlogGateway.Uri.Domain.Label

namespace BlogGateway.Uri

/-- Decodes percent escapes; a percent sign that two digits do not follow stays. -/
def decodePercent : Bytes → Bytes
  | [] => []
  | 0x25 :: a :: b :: s =>
    match Ascii.hexValue? a, Ascii.hexValue? b with
    | some high, some low => (high * 16 + low) :: decodePercent s
    | _, _ => 0x25 :: decodePercent (a :: b :: s)
  | b :: s => b :: decodePercent s
termination_by s => s.length

/-- Characters that no domain may hold, even after its escapes have been decoded. -/
def isForbiddenInDomain (c : Char) : Bool :=
  c.toNat ≤ 0x20 || c.toNat = 0x7F || "%#/:<>?@[\\]^|".toList.contains c

/-- The characters of a domain after each has become what it stands for. -/
def plainChars? (chars : List Char) : Option (List Char) :=
  if chars.any isForbidden then none
  else
    let plain := chars.flatMap plainForm
    if plain.any isForbiddenInDomain then none else some plain

/-- The plain form of a domain, if all its characters and labels are allowed. -/
def domain? (host : List Char) : Option (List Char) := do
  let text ← (decodePercent (Bytes.ofText (String.ofList host))).toText?
  let plain ← plainChars? text.toList
  if areLabels (Text.pieces '.' plain) then some plain else none

/-! ### Numbers as hosts -/

/-- Reads a number in decimal, in octal after a zero, or in hexadecimal after `0x`. -/
def hostNumber? (s : List Char) : Option Nat :=
  match s with
  | [] => none
  | '0' :: 'x' :: digits => Text.number? 16 digits
  | '0' :: 'X' :: digits => Text.number? 16 digits
  | '0' :: d :: digits => Text.number? 8 (d :: digits)
  | digits => Text.number? 10 digits

/-- The labels of a domain, without the empty one behind a final point. -/
def labels (domain : List Char) : List (List Char) :=
  let all := Text.pieces '.' domain
  if all.length > 1 && all.getLast? == some [] then all.dropLast else all

/-- Whether the last label of a domain is a number, so that the domain has to be an address. -/
def endsInNumber (domain : List Char) : Bool :=
  match (labels domain).getLast? with
  | none => false
  | some last => (!last.isEmpty && last.all Text.isDigit) || (hostNumber? last).isSome

/-- Whether labels make a version 4 address: up to four numbers, each but the last a byte,
and the last filling the bytes that are left. -/
def isHostAddress (domain : List Char) : Bool :=
  match (labels domain).mapM hostNumber? with
  | none => false
  | some numbers =>
    match numbers.getLast? with
    | none => false
    | some last =>
      numbers.length ≤ 4 && last < Nat.pow 256 (5 - numbers.length)
        && numbers.dropLast.all (· ≤ 255)

end BlogGateway.Uri
