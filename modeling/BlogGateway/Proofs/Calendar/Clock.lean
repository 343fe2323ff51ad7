/-
The calendar as a clock.

A clock that is set to the start of 1970 and goes on second by second shows every instant there
is from then on, in order: it counts the seconds up to sixty, the minutes and the hours behind
them, the days up to the length of their month, and then the months and the years.  What the count
of seconds is turned into is what this clock shows after so many ticks, although no walk over years
and months is like a tick.  Both are told apart by the seconds they have counted: no two instants
that exist have the same, since a later one has more.
-/
import BlogGateway.Proofs.Calendar
import Mathlib.Data.List.Lex
import Mathlib.Logic.Function.Iterate

namespace BlogGateway.Calendar

variable {t a b : Instant}

/-- The instant that seconds are counted from. -/
def epoch : Instant := ⟨epochYear, 1, 1, 0, 0, 0⟩

/-- The clock goes on by a second: the first part that is not at its end goes on by one, and those
behind it begin again. -/
def Instant.next (t : Instant) : Instant :=
  if t.second + 1 < 60 then { t with second := t.second + 1 }
  else if t.minute + 1 < 60 then { t with minute := t.minute + 1, second := 0 }
  else if t.hour + 1 < 24 then { t with hour := t.hour + 1, minute := 0, second := 0 }
  else if t.day < monthLength t.year t.month then
    { t with day := t.day + 1, hour := 0, minute := 0, second := 0 }
  else if t.month < 12 then ⟨t.year, t.month + 1, 1, 0, 0, 0⟩
  else ⟨t.year + 1, 1, 1, 0, 0, 0⟩

/-- The parts of an instant, those that count most first. -/
def Instant.parts (t : Instant) : List Nat := [t.year, t.month, t.day, t.hour, t.minute, t.second]

/-! ### Days and seconds -/

/-- The days of the year before the day of an instant. -/
def Instant.dayOfYear (t : Instant) : Nat := daysBeforeMonth t.year t.month + (t.day - 1)

/-- The seconds of the day before an instant. -/
def Instant.timeOfDay (t : Instant) : Nat := t.hour * 3600 + t.minute * 60 + t.second

theorem seconds_eq (t : Instant) :
    t.seconds = (daysBeforeYear t.year - daysBeforeYear epochYear + t.dayOfYear) * daySeconds
      + t.timeOfDay := by
  simp only [Instant.seconds, Instant.dayOfYear, Instant.timeOfDay, Nat.add_assoc]

theorem timeOfDay_lt (valid : t.valid = true) : t.timeOfDay < daySeconds := by
  obtain ⟨-, hour, minute, second⟩ := valid_iff.mp valid
  simp only [Instant.timeOfDay, daySeconds]
  omega

theorem daysBeforeMonth_le {year month month' : Nat} (one : 1 ≤ month) (h : month ≤ month') :
    daysBeforeMonth year month ≤ daysBeforeMonth year month' := by
  induction h with
  | refl => exact Nat.le_refl _
  | step h ih =>
      rw [Nat.succ_eq_add_one, daysBeforeMonth_succ (Nat.le_trans one h)]
      exact Nat.le_trans ih (Nat.le_add_right _ _)

/-- A day of a month is before all days of the months behind it. -/
theorem dayOfYear_lt_of_month {month : Nat} (valid : t.valid = true) (h : t.month < month) :
    t.dayOfYear < daysBeforeMonth t.year month := by
  obtain ⟨⟨first, last⟩, -⟩ := valid_iff.mp valid
  obtain ⟨one, -⟩ := month_of_valid valid
  have later : daysBeforeMonth t.year (t.month + 1) ≤ daysBeforeMonth t.year month :=
    daysBeforeMonth_le (Nat.le_add_left 1 _) h
  rw [daysBeforeMonth_succ one] at later
  unfold Instant.dayOfYear
  omega

theorem dayOfYear_lt (valid : t.valid = true) : t.dayOfYear < yearLength t.year := by
  have within : t.dayOfYear < daysBeforeMonth t.year 13 :=
    dayOfYear_lt_of_month valid (Nat.lt_succ_of_le (month_of_valid valid).2)
  rwa [daysBeforeMonth_end] at within

/-! ### The order of instants -/

/-- More days are more seconds, whatever the time of day. -/
theorem seconds_lt_of_days (valid : a.valid = true)
    (h : daysBeforeYear a.year - daysBeforeYear epochYear + a.dayOfYear
      < daysBeforeYear b.year - daysBeforeYear epochYear + b.dayOfYear) :
    a.seconds < b.seconds := by
  have time := timeOfDay_lt valid
  have days := Nat.mul_le_mul_right daySeconds (Nat.succ_le_of_lt h)
  rw [Nat.succ_mul] at days
  rw [seconds_eq, seconds_eq]
  omega

theorem seconds_lt_of_year (valid : a.valid = true) (late : epochYear ≤ a.year)
    (h : a.year < b.year) : a.seconds < b.seconds := by
  refine seconds_lt_of_days valid ?_
  have one : 1 ≤ a.year := Nat.le_trans (by decide) late
  have before := daysBeforeYear_le (by decide) late
  have within := dayOfYear_lt valid
  have later : daysBeforeYear (a.year + 1) ≤ daysBeforeYear b.year :=
    daysBeforeYear_le (Nat.le_add_left 1 _) h
  rw [daysBeforeYear_succ one] at later
  omega

/-- **The later of two instants has more seconds.** -/
theorem seconds_lt_of_parts_lt (valid : a.valid = true) (valid' : b.valid = true)
    (late : epochYear ≤ a.year) (h : a.parts < b.parts) : a.seconds < b.seconds := by
  obtain ⟨⟨first, -⟩, hour, minute, second⟩ := valid_iff.mp valid
  obtain ⟨-, hour', minute', second'⟩ := valid_iff.mp valid'
  simp only [Instant.parts, List.cons_lt_cons_iff, List.not_lt_nil, and_false, or_false] at h
  rcases h with years | ⟨year, months | ⟨month, days | ⟨day, times⟩⟩⟩
  · exact seconds_lt_of_year valid late years
  · have within := dayOfYear_lt_of_month valid months
    refine seconds_lt_of_days valid ?_
    rw [year] at within ⊢
    have reached : daysBeforeMonth b.year b.month ≤ b.dayOfYear := Nat.le_add_right _ _
    omega
  · refine seconds_lt_of_days valid ?_
    simp only [Instant.dayOfYear, year, month]
    omega
  · have time : a.timeOfDay < b.timeOfDay := by
      unfold Instant.timeOfDay
      omega
    rw [seconds_eq, seconds_eq, Instant.dayOfYear, Instant.dayOfYear, year, month, day]
    exact Nat.add_lt_add_left time _

theorem parts_injective (h : a.parts = b.parts) : a = b := by
  obtain ⟨⟩ := a
  obtain ⟨⟩ := b
  simpa [Instant.parts] using h

/-- The seconds tell the order of the instants that exist. -/
theorem seconds_lt_iff (valid : a.valid = true) (valid' : b.valid = true)
    (late : epochYear ≤ a.year) (late' : epochYear ≤ b.year) :
    a.seconds < b.seconds ↔ a.parts < b.parts := by
  refine ⟨fun h => ?_, seconds_lt_of_parts_lt valid valid' late⟩
  rcases lt_trichotomy a.parts b.parts with before | same | behind
  · exact before
  · exact absurd (parts_injective same ▸ h) (Nat.lt_irrefl _)
  · exact absurd h (Nat.lt_asymm (seconds_lt_of_parts_lt valid' valid late' behind))

theorem seconds_injective (valid : a.valid = true) (valid' : b.valid = true)
    (late : epochYear ≤ a.year) (late' : epochYear ≤ b.year) (h : a.seconds = b.seconds) :
    a = b := by
  rcases lt_trichotomy a.parts b.parts with before | same | behind
  · exact absurd h (Nat.ne_of_lt (seconds_lt_of_parts_lt valid valid' late before))
  · exact parts_injective same
  · exact absurd h.symm (Nat.ne_of_lt (seconds_lt_of_parts_lt valid' valid late' behind))

/-- An instant that exists is the one that its seconds make. -/
theorem ofSeconds_seconds (valid : t.valid = true) (late : epochYear ≤ t.year) :
    Instant.ofSeconds t.seconds = t :=
  seconds_injective (valid_ofSeconds _) valid (dates_ofSeconds _).year late (seconds_ofSeconds _)

/-! ### The clock -/

theorem monthLength_pos {year month : Nat} (one : 1 ≤ month) (twelve : month ≤ 12) :
    1 ≤ monthLength year month := by
  unfold monthLength
  split <;> (try split) <;> first | decide | grind

/-- The clock shows instants that exist. -/
theorem valid_next (valid : t.valid = true) : t.next.valid = true := by
  obtain ⟨⟨first, last⟩, hour, minute, second⟩ := valid_iff.mp valid
  obtain ⟨one, twelve⟩ := month_of_valid valid
  have begin : 0 < 24 ∧ 0 < 60 ∧ 0 < 60 := by decide
  rw [valid_iff]
  unfold Instant.next
  split
  · exact ⟨⟨first, last⟩, hour, minute, ‹_›⟩
  split
  · exact ⟨⟨first, last⟩, hour, ‹_›, begin.2.2⟩
  split
  · exact ⟨⟨first, last⟩, ‹_›, begin.2⟩
  split
  · exact ⟨⟨Nat.le_add_left 1 _, ‹_›⟩, begin⟩
  split
  · exact ⟨⟨Nat.le_refl 1, monthLength_pos (Nat.le_add_left 1 _) ‹_›⟩, begin⟩
  · exact ⟨⟨Nat.le_refl 1, monthLength_pos (Nat.le_refl 1) (Nat.le_add_left 1 11)⟩, begin⟩

theorem year_le_next (t : Instant) : t.year ≤ t.next.year := by
  unfold Instant.next
  repeat' split
  all_goals first | exact Nat.le_refl _ | exact Nat.le_succ _

/-- **Every tick of the clock is one second.** -/
theorem seconds_next (valid : t.valid = true) (late : epochYear ≤ t.year) :
    t.next.seconds = t.seconds + 1 := by
  obtain ⟨⟨first, last⟩, hour, minute, second⟩ := valid_iff.mp valid
  obtain ⟨one, twelve⟩ := month_of_valid valid
  have before := daysBeforeYear_le (by decide) late
  simp only [Instant.seconds, Instant.next, daySeconds]
  split
  · dsimp only; omega
  split
  · dsimp only; omega
  split
  · dsimp only; omega
  split
  · dsimp only; omega
  have full : t.day = monthLength t.year t.month := by omega
  split
  · have month := @daysBeforeMonth_succ t.year _ one
    dsimp only
    omega
  · have december : t.month = 12 := by omega
    have months := daysBeforeMonth_end t.year
    rw [daysBeforeMonth_succ (by decide)] at months
    have year := daysBeforeYear_succ (Nat.le_trans (by decide) late)
    have january : daysBeforeMonth (t.year + 1) 1 = 0 := rfl
    rw [december] at full ⊢
    dsimp only
    omega

/-- **The instant so many seconds after the epoch is what the clock shows after so many ticks.** -/
theorem ofSeconds_eq_iterate (n : Nat) : Instant.ofSeconds n = Instant.next^[n] epoch := by
  induction n with
  | zero => exact ofSeconds_seconds (t := epoch) (by decide) (Nat.le_refl _)
  | succ n ih =>
      have valid := valid_ofSeconds n
      have late := (dates_ofSeconds n).year
      have tick : (Instant.ofSeconds n).next.seconds = n + 1 := by
        rw [seconds_next valid late, seconds_ofSeconds]
      rw [Function.iterate_succ_apply', ← ih, ← tick]
      exact ofSeconds_seconds (valid_next valid) (Nat.le_trans late (year_le_next _))

end BlogGateway.Calendar
