/-
Cutting texts at a separator.
-/
namespace BlogGateway.Text

/-- The pieces between the separators, of which there is one more than separators. -/
def pieces (separator : Char) : List Char → List (List Char)
  | [] => [[]]
  | c :: s =>
    if c = separator then [] :: pieces separator s
    else match pieces separator s with
      | [] => [[c]]
      | piece :: rest => (c :: piece) :: rest

/-- The texts before and after the first pair of equal separators, if there is one. -/
def cutAtPair? (separator : Char) : List Char → Option (List Char × List Char)
  | a :: b :: s =>
    if a = separator && b = separator then some ([], s)
    else (cutAtPair? separator (b :: s)).map fun (left, right) => (a :: left, right)
  | _ => none

/-- Whether a character is an ASCII decimal digit. -/
def isDigit (c : Char) : Bool := '0' ≤ c && c ≤ '9'

/-- Whether a character is an ASCII letter. -/
def isLetter (c : Char) : Bool := ('a' ≤ c && c ≤ 'z') || ('A' ≤ c && c ≤ 'Z')

/-- The value of an ASCII hexadecimal digit of either case. -/
def hexValue? (c : Char) : Option Nat :=
  if isDigit c then some (c.toNat - '0'.toNat)
  else if 'a' ≤ c && c ≤ 'f' then some (c.toNat - 'a'.toNat + 10)
  else if 'A' ≤ c && c ≤ 'F' then some (c.toNat - 'A'.toNat + 10)
  else none

/-- The number that digits of a base spell, read from the left; `none` at a character that is
no digit of the base.  No digits spell zero. -/
def number? (base : Nat) (digits : List Char) : Option Nat :=
  digits.foldlM (fun acc c => do
    let value ← hexValue? c
    if value < base then some (acc * base + value) else none) 0

/-- An ASCII capital as its small letter. -/
def lowerAscii (c : Char) : Char :=
  if 'A' ≤ c && c ≤ 'Z' then Char.ofNat (c.toNat + 32) else c

end BlogGateway.Text
