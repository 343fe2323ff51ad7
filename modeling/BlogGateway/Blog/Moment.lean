/-
When a change happens.

A change to the blog may need the time and an identifier that no other change was given.
Both come from outside and are constant during the change.
-/
import BlogGateway.Calendar
import BlogGateway.Json.Value
import BlogGateway.Uuid

namespace BlogGateway.Blog

/-- A time, in billionths of a second since the start of 1970. -/
structure Timestamp where
  nanoseconds : Nat
  deriving DecidableEq, Repr, Inhabited

namespace Timestamp

/-- A number in decimal, filled up with zeros to a width. -/
def digits (width n : Nat) : String :=
  let digits := Nat.toDigits 10 n
  String.ofList (List.replicate (width - digits.length) '0' ++ digits)

/-- The part of a second: as many groups of three digits as are needed. -/
def fractionText (nanoseconds : Nat) : String :=
  if nanoseconds = 0 then ""
  else if nanoseconds % 1000000 = 0 then "." ++ digits 3 (nanoseconds / 1000000)
  else if nanoseconds % 1000 = 0 then "." ++ digits 6 (nanoseconds / 1000)
  else "." ++ digits 9 nanoseconds

/-- A time as text, in universal time. -/
def text (time : Timestamp) : String :=
  let t := Calendar.Instant.ofSeconds (time.nanoseconds / 1000000000)
  let year := if t.year ≤ 9999 then digits 4 t.year else "+" ++ digits 4 t.year
  year ++ "-" ++ digits 2 t.month ++ "-" ++ digits 2 t.day ++ "T" ++ digits 2 t.hour ++ ":"
    ++ digits 2 t.minute ++ ":" ++ digits 2 t.second
    ++ fractionText (time.nanoseconds % 1000000000) ++ "Z"

/-- A time as JSON. -/
def value (time : Timestamp) : Json.Value := .string time.text

end Timestamp

/-- What a change is given from outside. -/
structure Moment where
  now : Timestamp
  freshId : Uuid
  deriving DecidableEq, Repr, Inhabited

end BlogGateway.Blog
