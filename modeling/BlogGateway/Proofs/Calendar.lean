/-
Seconds become a date, and the date the same seconds again.

A count of days is walked down over years and then over months.  Either walk keeps what it
counts: the days before the place it has come to, with the days that are left, stay the same.
It ends where the days that are left fit, so the date exists, and adding the days up again
gives the count.
-/
import BlogGateway.Calendar
import Mathlib.Data.Nat.Init

namespace BlogGateway.Calendar

/-! ### Years -/

theorem daysBeforeYear_succ {year : Nat} (h : 1 ≤ year) :
    daysBeforeYear (year + 1) = daysBeforeYear year + yearLength year := by
  obtain ⟨n, rfl⟩ : ∃ n, year = n + 1 := ⟨year - 1, by omega⟩
  have century : (n + 1) % 100 = 0 → (n + 1) % 4 = 0 := by omega
  have cycle : (n + 1) % 400 = 0 → (n + 1) % 100 = 0 := by omega
  have fewer : n / 100 ≤ n / 4 := Nat.div_le_div_left (by decide) (by decide)
  simp only [daysBeforeYear, yearLength, isLeap, Bool.and_eq_true, Bool.or_eq_true,
    decide_eq_true_eq, Nat.add_sub_cancel, Nat.succ_div, Nat.dvd_iff_mod_eq_zero]
  generalize n / 4 = fours, n / 100 = hundreds, n / 400 = cycles at fewer ⊢
  by_cases four : (n + 1) % 4 = 0 <;> by_cases hundred : (n + 1) % 100 = 0 <;>
    by_cases whole : (n + 1) % 400 = 0 <;> simp [four, hundred, whole] at century cycle ⊢ <;> omega

/-- The walk over the years ends in a year that has the day. -/
theorem splitYear_spec {year day : Nat} (h : 1 ≤ year) :
    (splitYear year day).2 < yearLength (splitYear year day).1 ∧
      year ≤ (splitYear year day).1 ∧
      daysBeforeYear (splitYear year day).1 + (splitYear year day).2
        = daysBeforeYear year + day := by
  fun_induction splitYear year day with
  | case1 year day within => exact ⟨within, Nat.le_refl year, rfl⟩
  | case2 year day beyond ih =>
      obtain ⟨fits, later, kept⟩ := ih (Nat.le_succ_of_le h)
      refine ⟨fits, Nat.le_of_succ_le later, ?_⟩
      rw [kept, daysBeforeYear_succ h]
      omega

/-! ### Months -/

theorem daysBeforeMonth_succ {year month : Nat} (h : 1 ≤ month) :
    daysBeforeMonth year (month + 1) = daysBeforeMonth year month + monthLength year month := by
  cases month with
  | zero => cases h
  | succ month => rfl

/-- The months of a year have all its days. -/
theorem daysBeforeMonth_end (year : Nat) : daysBeforeMonth year 13 = yearLength year := by
  simp only [daysBeforeMonth, monthLength, yearLength]
  split <;> rfl

/-- The walk over the months ends in a month that has the day. -/
theorem splitMonth_spec {year fuel month day : Nat} (h : 1 ≤ month) (last : month + fuel = 12)
    (within : daysBeforeMonth year month + day < yearLength year) :
    (splitMonth year fuel month day).2 < monthLength year (splitMonth year fuel month day).1 ∧
      (month ≤ (splitMonth year fuel month day).1 ∧ (splitMonth year fuel month day).1 ≤ 12) ∧
      daysBeforeMonth year (splitMonth year fuel month day).1
          + (splitMonth year fuel month day).2 = daysBeforeMonth year month + day := by
  induction fuel generalizing month day with
  | zero =>
      obtain rfl : month = 12 := last
      have total := daysBeforeMonth_end year
      rw [daysBeforeMonth_succ (by decide)] at total
      exact ⟨by simp only [splitMonth]; omega, ⟨Nat.le_refl _, Nat.le_refl _⟩, rfl⟩
  | succ fuel ih =>
      by_cases fits : day < monthLength year month
      · simp only [splitMonth, fits, ↓reduceIte]
        exact ⟨trivial, ⟨Nat.le_refl _, by omega⟩, trivial⟩
      · have next : daysBeforeMonth year (month + 1) + (day - monthLength year month)
            = daysBeforeMonth year month + day := by
          rw [daysBeforeMonth_succ h]
          omega
        have left := next ▸ within
        obtain ⟨fits', ⟨later, bound⟩, kept⟩ := ih (Nat.le_add_left 1 month) (by omega) left
        simp only [splitMonth, fits, ↓reduceIte]
        exact ⟨fits', ⟨Nat.le_of_succ_le later, bound⟩, kept.trans next⟩

theorem monthLength_le (year month : Nat) : monthLength year month ≤ 31 := by
  unfold monthLength
  split <;> (try split) <;> decide

/-- Leap years repeat every four hundred years. -/
theorem monthLength_mod (year month : Nat) :
    monthLength (year % 400) month = monthLength year month := by
  have leap : isLeap (year % 400) = isLeap year := by
    unfold isLeap
    rw [Nat.mod_mod, Nat.mod_mod_of_dvd year (by decide : 4 ∣ 400),
      Nat.mod_mod_of_dvd year (by decide : 100 ∣ 400)]
  unfold monthLength
  rw [leap]

/-! ### Instants -/

/-- The date of an instant exists, and its days are those that were counted. -/
structure Instant.Dates (t : Instant) (days : Nat) : Prop where
  year : epochYear ≤ t.year
  month : 1 ≤ t.month ∧ t.month ≤ 12
  day : 1 ≤ t.day ∧ t.day ≤ monthLength t.year t.month
  days_eq : daysBeforeYear t.year + daysBeforeMonth t.year t.month + (t.day - 1)
    = daysBeforeYear epochYear + days

theorem dates_ofSeconds (n : Nat) : (Instant.ofSeconds n).Dates (n / daySeconds) := by
  obtain ⟨within, later, counted⟩ := @splitYear_spec epochYear (n / daySeconds) (by decide)
  obtain ⟨fits, bounds, kept⟩ := @splitMonth_spec _ 11 1 _ (Nat.le_refl 1) rfl
    (Nat.lt_of_le_of_lt (Nat.le_of_eq (Nat.zero_add _)) within)
  refine ⟨later, bounds, ⟨Nat.le_add_left 1 _, fits⟩, ?_⟩
  rw [← counted, Nat.add_assoc]
  exact congrArg _ (kept.trans (Nat.zero_add _))

/-- The time of day of an instant exists, and its seconds are those that were counted. -/
theorem time_ofSeconds (n : Nat) :
    (Instant.ofSeconds n).hour < 24 ∧ (Instant.ofSeconds n).minute < 60 ∧
      (Instant.ofSeconds n).second < 60 ∧
      (Instant.ofSeconds n).hour * 3600 + (Instant.ofSeconds n).minute * 60
        + (Instant.ofSeconds n).second = n % daySeconds := by
  have hour : (Instant.ofSeconds n).hour = n % daySeconds / 3600 := rfl
  have minute : (Instant.ofSeconds n).minute = n % daySeconds / 60 % 60 := rfl
  have second : (Instant.ofSeconds n).second = n % daySeconds % 60 := rfl
  have within : n % daySeconds < 86400 := Nat.mod_lt n (by decide)
  rw [hour, minute, second]
  omega

/-- An instant exists when its day and its time of day do. -/
theorem valid_iff {t : Instant} : t.valid = true ↔
    (1 ≤ t.day ∧ t.day ≤ monthLength t.year t.month) ∧ t.hour < 24 ∧ t.minute < 60 ∧
      t.second < 60 := by
  simp [Instant.valid, and_assoc]

/-- What exists has a month of the year: no other has days. -/
theorem month_of_valid {t : Instant} (valid : t.valid = true) : 1 ≤ t.month ∧ t.month ≤ 12 := by
  obtain ⟨⟨first, last⟩, -⟩ := valid_iff.mp valid
  unfold monthLength at last
  split at last <;> omega

/-- An instant that is made of seconds exists. -/
theorem valid_ofSeconds (n : Nat) : (Instant.ofSeconds n).valid = true := by
  obtain ⟨-, -, day, -⟩ := dates_ofSeconds n
  obtain ⟨hour, minute, second, -⟩ := time_ofSeconds n
  exact valid_iff.mpr ⟨day, hour, minute, second⟩

theorem daysBeforeYear_le {a b : Nat} (one : 1 ≤ a) (h : a ≤ b) :
    daysBeforeYear a ≤ daysBeforeYear b := by
  induction h with
  | refl => exact Nat.le_refl _
  | step h ih =>
      rw [Nat.succ_eq_add_one, daysBeforeYear_succ (Nat.le_trans one h)]
      exact Nat.le_trans ih (Nat.le_add_right _ _)

/-- **The seconds of the instant so many seconds after the epoch are those seconds.** -/
theorem seconds_ofSeconds (n : Nat) : (Instant.ofSeconds n).seconds = n := by
  obtain ⟨later, -, -, days⟩ := dates_ofSeconds n
  obtain ⟨-, -, -, time⟩ := time_ofSeconds n
  have before := daysBeforeYear_le (by decide : 1 ≤ epochYear) later
  have total : daysBeforeYear (Instant.ofSeconds n).year - daysBeforeYear epochYear
      + daysBeforeMonth (Instant.ofSeconds n).year (Instant.ofSeconds n).month
      + ((Instant.ofSeconds n).day - 1) = n / daySeconds := by omega
  unfold Instant.seconds
  rw [total, Nat.add_assoc, Nat.add_assoc, ← Nat.add_assoc (_ * 3600), time, Nat.div_add_mod']

/-- The years of the chain have four digits. -/
theorem year_ofSeconds_lt {n : Nat} (h : n < 0x100000000) : (Instant.ofSeconds n).year < 10000 := by
  obtain ⟨-, -, -, days⟩ := dates_ofSeconds n
  refine Nat.lt_of_not_le fun late => ?_
  have before := daysBeforeYear_le (by decide) late
  have far : daysBeforeYear 10000 = 3652059 := by decide
  have start : daysBeforeYear epochYear = 719162 := by decide
  have bound : n / daySeconds ≤ 0x100000000 / daySeconds := Nat.div_le_div_right (Nat.le_of_lt h)
  have few : 0x100000000 / daySeconds = 49710 := by decide
  omega

end BlogGateway.Calendar
