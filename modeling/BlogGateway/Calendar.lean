/-
The civil calendar.

Dates are those of the Gregorian calendar, carried on in both directions, and times are
universal time without leap seconds.  A count of days becomes a date by walking over whole
years and then over whole months; the way back adds up their lengths.
-/
namespace BlogGateway.Calendar

/-- A date with a time of day. -/
structure Instant where
  year : Nat
  month : Nat
  day : Nat
  hour : Nat
  minute : Nat
  second : Nat
  deriving DecidableEq, Repr

/-- Whether a year has a twenty-ninth of February. -/
def isLeap (year : Nat) : Bool := year % 4 = 0 && (year % 100 ≠ 0 || year % 400 = 0)

/-- How many days a year has. -/
def yearLength (year : Nat) : Nat := if isLeap year then 366 else 365

/-- How many days a month has; there is no thirteenth. -/
def monthLength (year month : Nat) : Nat :=
  match month with
  | 1 | 3 | 5 | 7 | 8 | 10 | 12 => 31
  | 4 | 6 | 9 | 11 => 30
  | 2 => if isLeap year then 29 else 28
  | _ => 0

/-- Whether the date and the time of day exist. -/
def Instant.valid (t : Instant) : Bool :=
  1 ≤ t.day && t.day ≤ monthLength t.year t.month && t.hour < 24 && t.minute < 60
    && t.second < 60

/-- The year that holds the given day, counted from the start of `year`, and the day within. -/
def splitYear (year day : Nat) : Nat × Nat :=
  if day < yearLength year then (year, day) else splitYear (year + 1) (day - yearLength year)
termination_by day
decreasing_by
  have : 0 < yearLength year := by unfold yearLength; split <;> omega
  omega

/-- The month of a year that holds the given day, counted from the start of `month`, and the
day within. -/
def splitMonth (year : Nat) : Nat → Nat → Nat → Nat × Nat
  | 0, month, day => (month, day)
  | fuel + 1, month, day =>
    if day < monthLength year month then (month, day)
    else splitMonth year fuel (month + 1) (day - monthLength year month)

/-- The days of the months before the given one. -/
def daysBeforeMonth (year : Nat) : Nat → Nat
  | 0 | 1 => 0
  | month + 1 => daysBeforeMonth year month + monthLength year month

/-- The days from the start of year one to the start of a later year. -/
def daysBeforeYear (year : Nat) : Nat :=
  365 * (year - 1) + (year - 1) / 4 - (year - 1) / 100 + (year - 1) / 400

/-- The year from whose start seconds are counted. -/
def epochYear : Nat := 1970

/-- The seconds of a day. -/
def daySeconds : Nat := 86400

/-- The instant so many seconds after the epoch. -/
def Instant.ofSeconds (seconds : Nat) : Instant :=
  let (year, dayOfYear) := splitYear epochYear (seconds / daySeconds)
  let (month, day) := splitMonth year 11 1 dayOfYear
  let rest := seconds % daySeconds
  { year, month, day := day + 1,
    hour := rest / 3600, minute := rest / 60 % 60, second := rest % 60 }

/-- The seconds from the epoch to an instant that is not before it. -/
def Instant.seconds (t : Instant) : Nat :=
  (daysBeforeYear t.year - daysBeforeYear epochYear + daysBeforeMonth t.year t.month
      + (t.day - 1)) * daySeconds
    + t.hour * 3600 + t.minute * 60 + t.second

end BlogGateway.Calendar
