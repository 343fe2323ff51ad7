/-
Times of the chain.

The chain counts seconds since the start of 1970 in 32 bits and writes them as
`YYYY-MM-DDTHH:MM:SS` in universal time.  Reading is more generous than writing: blanks may
stand before each number, numbers may have fewer digits, a year may have a sign and then any
number of digits, and a sixtieth second is taken for the fifty-ninth.
-/
import BlogGateway.Calendar
import BlogGateway.Json.Reader
import BlogGateway.Text.Blank
import BlogGateway.Text.Pieces

namespace BlogGateway

open Calendar

/-- A time of the chain. -/
structure ChainTime where
  seconds : UInt32
  deriving DecidableEq, Repr, Inhabited

namespace ChainTime

/-- Why a text is no time of the chain. -/
inductive Error
  /-- The text ends too early. -/
  | tooShort
  /-- The text goes on after the seconds. -/
  | tooLong
  /-- Something other than the expected number or mark. -/
  | invalid
  /-- A number that no calendar has in this place. -/
  | outOfCalendar
  /-- A time that does not fit the chain's 32 bits. -/
  | outOfRange
  deriving DecidableEq, Repr

/-- The text of an error about the given text. -/
def Error.message (text : String) : Error → String
  | .tooShort => s!"invalid chain time {Text.quoted text}: premature end of input"
  | .tooLong => s!"invalid chain time {Text.quoted text}: trailing input"
  | .invalid => s!"invalid chain time {Text.quoted text}: input contains invalid characters"
  | .outOfCalendar => s!"invalid chain time {Text.quoted text}: input is out of range"
  | .outOfRange => s!"chain time {Text.quoted text} is out of range"

/-- Takes digits into a number, at most `width` of them. -/
def takeDigits (acc : Nat) : Nat → List Char → Nat × List Char
  | 0, s => (acc, s)
  | _ + 1, [] => (acc, [])
  | width + 1, c :: s =>
    if Text.isDigit c then takeDigits (acc * 10 + (c.toNat - '0'.toNat)) width s
    else (acc, c :: s)

/-- Reads a number of one to `width` digits. -/
def readNumber (width : Nat) (s : List Char) : Except Error (Nat × List Char) :=
  match s with
  | [] => .error .tooShort
  | c :: _ => if Text.isDigit c then .ok (takeDigits 0 width s) else .error .invalid

/-- The blanks that may stand before a number. -/
def skipBlanks (s : List Char) : List Char := s.dropWhile Text.isBlank

/-- The years that dates can have. -/
def calendarYears (year : Int) : Bool := -262143 ≤ year && year ≤ 262142

/-- The largest number that a year with a sign may be written with. -/
def yearLimit : Nat := 0x7FFFFFFF

/-- Reads a year: up to four digits, or any number of them after a sign. -/
def readYear (s : List Char) : Except Error (Int × List Char) := do
  match skipBlanks s with
  | '-' :: s =>
    let (year, s) ← readNumber s.length.succ s
    if yearLimit + 1 < year then throw .outOfCalendar
    pure (-year, s)
  | '+' :: s =>
    let (year, s) ← readNumber s.length.succ s
    if yearLimit < year then throw .outOfCalendar
    pure (year, s)
  | s =>
    let (year, s) ← readNumber 4 s
    pure (year, s)

/-- Reads a number of up to two digits within bounds. -/
def readPart (low high : Nat) (s : List Char) : Except Error (Nat × List Char) := do
  let (value, s) ← readNumber 2 (skipBlanks s)
  if value < low || high < value then throw .outOfCalendar
  pure (value, s)

/-- Takes the mark between two numbers. -/
def readMark (mark : Char) (s : List Char) : Except Error (List Char) :=
  match s with
  | [] => .error .tooShort
  | c :: s => if c = mark then .ok s else .error .invalid

/-- Reads a time of the chain. -/
def parse (text : String) : Except Error ChainTime := do
  let (year, s) ← readYear text.toList
  let s ← readMark '-' s
  let (month, s) ← readPart 1 12 s
  let s ← readMark '-' s
  let (day, s) ← readPart 1 31 s
  let s ← readMark 'T' s
  let (hour, s) ← readPart 0 23 s
  let s ← readMark ':' s
  let (minute, s) ← readPart 0 59 s
  let s ← readMark ':' s
  let (second, s) ← readPart 0 60 s
  if !s.isEmpty then throw .tooLong
  -- leap years repeat every four hundred years, so negative years are moved up
  if !calendarYears year || monthLength (year % 400).toNat month < day then
    throw .outOfCalendar
  let instant : Instant :=
    { year := year.toNat, month, day, hour, minute, second := min second 59 }
  if year < epochYear || 0x100000000 ≤ instant.seconds then throw .outOfRange
  pure ⟨instant.seconds.toUInt32⟩

/-- A number with leading zeros up to the given width. -/
def padded (width n : Nat) : List Char :=
  let digits := Nat.toDigits 10 n
  List.replicate (width - digits.length) '0' ++ digits

/-- The characters of an instant in the form of the chain. -/
def instantChars (t : Instant) : List Char :=
  padded 4 t.year ++ '-' :: padded 2 t.month ++ '-' :: padded 2 t.day
    ++ 'T' :: padded 2 t.hour ++ ':' :: padded 2 t.minute ++ ':' :: padded 2 t.second

/-- A time of the chain as text. -/
def text (time : ChainTime) : String :=
  String.ofList (instantChars (Instant.ofSeconds time.seconds.toNat))

/-- A time of the chain as JSON. -/
def write (time : ChainTime) : Bytes := Json.writeText time.text

/-- Reads a time of the chain from a JSON string. -/
def read : Json.Reader ChainTime := fun s => do
  let (spelling, s) ← Json.readString "a string" s
  match parse spelling with
  | .ok time => pure (time, s)
  | .error cause => .error (.rule (cause.message spelling))

end ChainTime

end BlogGateway
