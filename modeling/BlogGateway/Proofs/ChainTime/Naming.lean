/-
What the text of a time of the chain names.

A text names an instant by its parts, each in its full number of digits and with its mark before
it.  Digits of equal number are ordered as what they count, and so are texts and the instants that
they name: no number has to be read for that.  An instant that exists is named by one text only,
the one that is written for it, so whatever names an instant is read as its seconds.
-/
import BlogGateway.Proofs.Calendar.Clock
import BlogGateway.Proofs.ChainTime
import Mathlib.Data.String.Basic

namespace BlogGateway.ChainTime

open Calendar

variable {width n m : Nat} {chars chars' rest rest' : List Char} {t t' : Instant}
  {text text' : String}

/-- A number in the given number of decimal digits. -/
structure Numeral (width n : Nat) (chars : List Char) : Prop where
  length : chars.length = width
  digits : ∀ c ∈ chars, Text.isDigit c
  value : Nat.ofDigitChars 10 chars 0 = n

/-- The text is `YYYY-MM-DDTHH:MM:SS` for the parts of the instant. -/
inductive Names (t : Instant) : String → Prop
  | text {year month day hour minute second : List Char}
      (ofYear : Numeral 4 t.year year) (ofMonth : Numeral 2 t.month month)
      (ofDay : Numeral 2 t.day day) (ofHour : Numeral 2 t.hour hour)
      (ofMinute : Numeral 2 t.minute minute) (ofSecond : Numeral 2 t.second second) :
      Names t (String.ofList (year ++ '-' :: (month ++ '-' :: (day ++ 'T' :: (hour ++ ':' ::
        (minute ++ ':' :: second))))))

/-! ### The order of numerals -/

/-- What begins smaller stays smaller, whatever digits come behind it. -/
theorem ofDigitChars_lt_of_lt (length : chars.length = chars'.length)
    (digits : ∀ c ∈ chars, Text.isDigit c) (h : n < m) :
    Nat.ofDigitChars 10 chars n < Nat.ofDigitChars 10 chars' m := by
  induction chars generalizing chars' n m with
  | nil =>
      obtain rfl := List.eq_nil_of_length_eq_zero length.symm
      exact h
  | cons c chars ih =>
      obtain ⟨c', chars', rfl⟩ := List.exists_cons_of_length_eq_add_one length.symm
      obtain ⟨digit, digits⟩ := List.forall_mem_cons.mp digits
      have bounds := le_of_isDigit digit
      have nine : '9'.toNat = '0'.toNat + 9 := rfl
      rw [Nat.ofDigitChars_cons, Nat.ofDigitChars_cons]
      exact ih (Nat.succ.inj length) digits (by omega)

/-- Digits that come first in the order of texts count less. -/
theorem ofDigitChars_lt_of_lex (length : chars.length = chars'.length)
    (digits : ∀ c ∈ chars, Text.isDigit c) (h : chars < chars') :
    Nat.ofDigitChars 10 chars n < Nat.ofDigitChars 10 chars' n := by
  induction chars generalizing chars' n with
  | nil =>
      obtain rfl := List.eq_nil_of_length_eq_zero length.symm
      exact absurd h (List.not_lt_nil _)
  | cons c chars ih =>
      obtain ⟨c', chars', rfl⟩ := List.exists_cons_of_length_eq_add_one length.symm
      obtain ⟨digit, digits⟩ := List.forall_mem_cons.mp digits
      have same := Nat.succ.inj length
      rw [Nat.ofDigitChars_cons, Nat.ofDigitChars_cons]
      rcases List.cons_lt_cons_iff.mp h with first | ⟨rfl, others⟩
      · have bounds := le_of_isDigit digit
        have less : c.toNat < c'.toNat := first
        exact ofDigitChars_lt_of_lt same digits (by omega)
      · exact ih same digits others

theorem Numeral.lt_of_lex (numeral : Numeral width n chars) (numeral' : Numeral width m chars')
    (h : chars < chars') : n < m := by
  rw [← numeral.value, ← numeral'.value]
  exact ofDigitChars_lt_of_lex (numeral.length.trans numeral'.length.symm) numeral.digits h

/-- Numerals of the same number of digits are ordered as their numbers. -/
theorem Numeral.lt_iff (numeral : Numeral width n chars) (numeral' : Numeral width m chars') :
    chars < chars' ↔ n < m := by
  refine ⟨numeral.lt_of_lex numeral', fun h => ?_⟩
  rcases lt_trichotomy chars chars' with before | rfl | behind
  · exact before
  · exact absurd (numeral.value.symm.trans numeral'.value) (Nat.ne_of_lt h)
  · exact absurd h (Nat.lt_asymm (numeral'.lt_of_lex numeral behind))

/-- A number has one numeral of so many digits. -/
theorem Numeral.eq_iff (numeral : Numeral width n chars) (numeral' : Numeral width m chars') :
    chars = chars' ↔ n = m := by
  rw [eq_iff_le_not_lt, eq_iff_le_not_lt, ← not_lt, ← not_lt, numeral.lt_iff numeral',
    numeral'.lt_iff numeral]

theorem Numeral.lt (numeral : Numeral width n chars) : n < 10 ^ width := by
  have same : chars.length = (List.replicate chars.length '0').length :=
    List.length_replicate.symm
  have within := ofDigitChars_lt_of_lt same numeral.digits Nat.zero_lt_one
  rw [numeral.value, Nat.ofDigitChars_replicate_zero, numeral.length] at within
  simpa using within

theorem numeral_padded (positive : 0 < width) (h : n < 10 ^ width) :
    Numeral width n (padded width n) :=
  ⟨length_padded positive h, fun _ hmem => isDigit_of_mem_padded hmem, ofDigitChars_padded width n⟩

theorem append_lt_append_iff (length : chars.length = chars'.length) :
    chars ++ rest < chars' ++ rest' ↔ chars < chars' ∨ chars = chars' ∧ rest < rest' := by
  induction chars generalizing chars' with
  | nil =>
      obtain rfl := List.eq_nil_of_length_eq_zero length.symm
      simp
  | cons c chars ih =>
      obtain ⟨c', chars', rfl⟩ := List.exists_cons_of_length_eq_add_one length.symm
      simp only [List.cons_append, List.cons_lt_cons_iff, ih (Nat.succ.inj length), List.cons.injEq]
      grind

theorem Numeral.append_lt_iff (numeral : Numeral width n chars)
    (numeral' : Numeral width m chars') :
    chars ++ rest < chars' ++ rest' ↔ n < m ∨ n = m ∧ rest < rest' := by
  rw [append_lt_append_iff (numeral.length.trans numeral'.length.symm), numeral.lt_iff numeral',
    numeral.eq_iff numeral']

/-! ### Names of instants -/

/-- **Texts are ordered as the instants that they name.** -/
theorem Names.lt_iff (names : Names t text) (names' : Names t' text') :
    text < text' ↔ t.parts < t'.parts := by
  obtain ⟨year, month, day, hour, minute, second⟩ := names
  obtain ⟨year', month', day', hour', minute', second'⟩ := names'
  simp only [String.lt_iff_toList_lt, String.toList_ofList, year.append_lt_iff year',
    month.append_lt_iff month', day.append_lt_iff day', hour.append_lt_iff hour',
    minute.append_lt_iff minute', second.lt_iff second', List.cons_lt_cons_self, Instant.parts,
    List.cons_lt_cons_iff, List.not_lt_nil, and_false, or_false]

/-- An instant has one name. -/
theorem Names.unique (names : Names t text) (names' : Names t text') : text = text' := by
  have less := names.lt_iff names'
  have more := names'.lt_iff names
  rw [eq_iff_le_not_lt, ← not_lt, less, more]
  exact ⟨lt_irrefl _, lt_irrefl _⟩

theorem Names.year_lt (names : Names t text) : t.year < 10000 := by
  cases names with
  | text ofYear => exact ofYear.lt

/-- What is written for an instant names it. -/
theorem names_instantChars (valid : t.valid = true) (year : t.year < 10000) :
    Names t (String.ofList (instantChars t)) := by
  obtain ⟨⟨first, last⟩, hour, minute, second⟩ := valid_iff.mp valid
  have month := (month_of_valid valid).2
  have days := monthLength_le t.year t.month
  have number {n : Nat} (h : n < 100) : Numeral 2 n (padded 2 n) := numeral_padded (by decide) h
  have named : Names t _ := .text (numeral_padded (by decide) year) (number (by omega))
    (number (by omega)) (number (by omega)) (number (by omega)) (number (by omega))
  simpa [instantChars] using named

/-- The text that names an instant is read as its seconds, when the chain can count them. -/
theorem Names.parse (names : Names t text) (valid : t.valid = true) :
    parse text = if t.year < epochYear ∨ 0x100000000 ≤ t.seconds then .error .outOfRange
      else .ok ⟨t.seconds.toUInt32⟩ := by
  rw [← (names_instantChars valid names.year_lt).unique names]
  exact parse_instantChars valid names.year_lt

/-- The text of a time names what the clock shows after its seconds. -/
theorem names_text (time : ChainTime) :
    Names (Instant.next^[time.seconds.toNat] epoch) time.text := by
  rw [← ofSeconds_eq_iterate]
  exact names_instantChars (valid_ofSeconds _) (year_ofSeconds_lt time.seconds.toNat_lt)

/-! ### The times that the chain can count -/

/-- The last instant that the chain can count. -/
def lastInstant : Instant := ⟨2106, 2, 7, 6, 28, 15⟩

/-- The chain counts the seconds from the epoch to its last instant. -/
theorem counted_iff (valid : t.valid = true) :
    ¬ (t.year < epochYear ∨ 0x100000000 ≤ t.seconds) ↔
      epoch.parts ≤ t.parts ∧ t.parts ≤ lastInstant.parts := by
  have last : lastInstant.seconds = 0xFFFFFFFF := by decide
  by_cases late : epochYear ≤ t.year
  · have begun : epoch.parts ≤ t.parts := by
      rw [← not_lt, ← seconds_lt_iff valid (by decide) late (by decide)]
      exact Nat.not_lt_zero _
    have reach := seconds_lt_iff (a := lastInstant) (by decide) valid (by decide) late
    have within : t.parts ≤ lastInstant.parts ↔ t.seconds ≤ 0xFFFFFFFF := by
      rw [← not_lt, ← reach, last, Nat.not_lt]
    simp only [within, begun, true_and]
    omega
  · have before : t.parts < epoch.parts := List.cons_lt_cons_iff.mpr (.inl (Nat.lt_of_not_le late))
    simp [Nat.lt_of_not_le late, before]

/--
**The texts of times are the calendar.**

A time is read back from its text, and texts come in the order of their times.  The text of a time
names what a clock shows that has gone on from the epoch for so many seconds.  And the name of any
instant is read just when it is from the epoch to the last instant of the chain, and is then
written for what was read.
-/
theorem texts_are_calendar :
    (∀ time : ChainTime, parse time.text = .ok time) ∧
    (∀ time time' : ChainTime, time.seconds < time'.seconds ↔ time.text < time'.text) ∧
    (∀ time : ChainTime, Names (Instant.next^[time.seconds.toNat] epoch) time.text) ∧
    ∀ (t : Instant) (text : String), t.valid = true → Names t text →
      ((∃ time, parse text = .ok time) ↔ epoch.parts ≤ t.parts ∧ t.parts ≤ lastInstant.parts) ∧
      ∀ time, parse text = .ok time → time.text = text := by
  refine ⟨parse_text, fun time time' => ?_, names_text, fun t text valid names => ⟨?_, ?_⟩⟩
  · have order := (names_text time).lt_iff (names_text time')
    rw [order, ← ofSeconds_eq_iterate, ← ofSeconds_eq_iterate,
      ← seconds_lt_iff (valid_ofSeconds _) (valid_ofSeconds _) (dates_ofSeconds _).year
        (dates_ofSeconds _).year, seconds_ofSeconds, seconds_ofSeconds, UInt32.lt_iff_toNat_lt]
  · rw [← counted_iff valid, names.parse valid]
    split <;> simp_all
  · intro time parsed
    rw [names.parse valid] at parsed
    split at parsed
    · cases parsed
    rename_i counted
    rw [not_or, Nat.not_lt, Nat.not_le] at counted
    cases parsed
    have seconds : t.seconds.toUInt32.toNat = t.seconds := UInt32.toNat_ofNat_of_lt counted.2
    rw [ChainTime.text, seconds, ofSeconds_seconds valid counted.1]
    exact (names_instantChars valid names.year_lt).unique names

/-- The chain knows the last second of its times, and not the one after it. -/
theorem last_second_known :
    (∃ time, parse "2106-02-07T06:28:15" = .ok time) ∧
      ¬ ∃ time, parse "2106-02-07T06:28:16" = .ok time := by
  have known (t : Instant) (text : String) (valid : t.valid = true) (names : Names t text) :=
    (texts_are_calendar.2.2.2 t text valid names).1
  have last := @names_instantChars lastInstant (by decide) (by decide)
  have behind := @names_instantChars lastInstant.next (by decide) (by decide)
  have spelled : String.ofList (instantChars lastInstant) = "2106-02-07T06:28:15" := by decide
  have spelled' : String.ofList (instantChars lastInstant.next) = "2106-02-07T06:28:16" := by decide
  rw [spelled] at last
  rw [spelled'] at behind
  rw [known _ _ (by decide) last, known _ _ (by decide) behind]
  decide

end BlogGateway.ChainTime
