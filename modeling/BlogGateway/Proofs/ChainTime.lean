/-
Times of the chain are read back from what is written.

The written form gives every number its full width, with zeros in front, and a number that is
read with that width takes exactly its digits.  What is left is the calendar: the parts are
those of an instant that exists, and its seconds are the ones that it was made of.
-/
import BlogGateway.ChainTime
import BlogGateway.Proofs.Calendar
import BlogGateway.Proofs.Json.Strings
import Mathlib.Algebra.Group.Nat.Defs

namespace BlogGateway.ChainTime

open Calendar

variable {width n low high : Nat} {chars rest : List Char}

/-! ### Numbers of full width -/

/-- As many digits are taken as there are, when they are as many as may be taken. -/
theorem takeDigits_full (digits : ∀ c ∈ chars, Text.isDigit c) (acc : Nat) :
    takeDigits acc chars.length (chars ++ rest) = (Nat.ofDigitChars 10 chars acc, rest) := by
  induction chars generalizing acc with
  | nil =>
      cases rest <;> rfl
  | cons c chars ih =>
      have digit := digits c (List.mem_cons_self ..)
      rw [List.length_cons, List.cons_append, takeDigits, if_pos digit,
        ih (fun c' hmem => digits c' (List.mem_cons_of_mem c hmem)), Nat.ofDigitChars_cons,
        Nat.mul_comm]

theorem length_padded (positive : 0 < width) (h : n < 10 ^ width) :
    (padded width n).length = width := by
  have short : (Nat.toDigits 10 n).length ≤ width :=
    (Nat.length_toDigits_le_iff (by decide) positive).mpr h
  unfold padded
  rw [List.length_append, List.length_replicate]
  omega

theorem isDigit_of_mem_padded {c : Char} (h : c ∈ padded width n) : Text.isDigit c := by
  rcases List.mem_append.mp h with h | h
  · rw [List.eq_of_mem_replicate h]
    rfl
  · exact Nat.isDigit_of_mem_toDigits (by decide) (by decide) h

/-- Zeros in front do not change a number. -/
theorem ofDigitChars_padded (width n : Nat) : Nat.ofDigitChars 10 (padded width n) 0 = n := by
  unfold padded
  rw [Nat.ofDigitChars_append, Nat.ofDigitChars_replicate_zero, Nat.mul_zero,
    Nat.ofDigitChars_ten_toDigits]

/-- A number of full width begins with a digit. -/
theorem padded_eq_cons (positive : 0 < width) (h : n < 10 ^ width) :
    ∃ c s, padded width n = c :: s ∧ Text.isDigit c := by
  have digits (c : Char) (hmem : c ∈ padded width n) := isDigit_of_mem_padded hmem
  have length := length_padded positive h
  cases hpadded : padded width n with
  | nil =>
      rw [hpadded] at length
      exact absurd positive (length ▸ Nat.lt_irrefl 0)
  | cons c s => exact ⟨c, s, rfl, digits c (hpadded ▸ List.mem_cons_self ..)⟩

theorem readNumber_padded (positive : 0 < width) (h : n < 10 ^ width) :
    readNumber width (padded width n ++ rest) = .ok (n, rest) := by
  have taken : takeDigits 0 (padded width n).length (padded width n ++ rest) = _ :=
    takeDigits_full (fun c hmem => isDigit_of_mem_padded hmem) 0
  rw [length_padded positive h, ofDigitChars_padded] at taken
  obtain ⟨c, s, split, digit⟩ := padded_eq_cons positive h
  rw [split, List.cons_append] at taken ⊢
  unfold readNumber
  simp only [digit, ↓reduceIte, taken]

/-! ### Parts -/

theorem le_of_isDigit {c : Char} (h : Text.isDigit c) :
    '0'.toNat ≤ c.toNat ∧ c.toNat ≤ '9'.toNat := by
  simpa [Text.isDigit, Char.le_def, UInt32.le_iff_toNat_le] using h

theorem isBlank_of_isDigit {c : Char} (h : Text.isDigit c) : Text.isBlank c = false := by
  have bounds : 48 ≤ c.toNat ∧ c.toNat ≤ 57 := le_of_isDigit h
  simp [Text.isBlank, Text.inRanges, Text.blankRanges]
  omega

theorem readMark_cons (mark : Char) (s : List Char) : readMark mark (mark :: s) = .ok s :=
  if_pos rfl

/-- No blank stands before a number of full width. -/
theorem skipBlanks_padded (positive : 0 < width) (h : n < 10 ^ width) :
    skipBlanks (padded width n ++ rest) = padded width n ++ rest := by
  obtain ⟨c, s, split, digit⟩ := padded_eq_cons positive h
  rw [split]
  exact List.dropWhile_cons_of_neg (by simp [isBlank_of_isDigit digit])

theorem readPart_padded (least : low ≤ n) (most : n ≤ high) (small : high < 100) :
    readPart low high (padded 2 n ++ rest) = .ok (n, rest) := by
  have h : n < 10 ^ 2 := Nat.lt_of_le_of_lt most small
  have within : (n < low || high < n) = false := by
    simp only [Bool.or_eq_false_iff, decide_eq_false_iff_not]
    omega
  unfold readPart
  rw [skipBlanks_padded (by decide) h, readNumber_padded (by decide) h]
  simp only [bind, Except.bind, within]
  rfl

theorem readYear_padded (h : n < 10000) :
    readYear (padded 4 n ++ rest) = .ok ((n : Int), rest) := by
  have taken : readNumber 4 (padded 4 n ++ rest) = .ok (n, rest) :=
    readNumber_padded (by decide) h
  unfold readYear
  rw [skipBlanks_padded (by decide) h]
  obtain ⟨c, s, split, digit⟩ := @padded_eq_cons 4 n (by decide) h
  rw [split, List.cons_append] at taken ⊢
  have ne_minus : c ≠ '-' := by rintro rfl; cases digit
  have ne_plus : c ≠ '+' := by rintro rfl; cases digit
  split
  · simp_all
  · simp_all
  · simp only [taken, bind, Except.bind]
    rfl

/-! ### Texts -/

/-- An instant that exists is read as its seconds, when the chain can count them. -/
theorem parse_instantChars {t : Instant} (valid : t.valid = true) (year : t.year < 10000) :
    parse (String.ofList (instantChars t)) =
      if t.year < epochYear ∨ 0x100000000 ≤ t.seconds then .error .outOfRange
      else .ok ⟨t.seconds.toUInt32⟩ := by
  obtain ⟨⟨first, last⟩, hour, minute, second⟩ := valid_iff.mp valid
  obtain ⟨month, month'⟩ := month_of_valid valid
  have chars : instantChars t = padded 4 t.year ++ '-' :: (padded 2 t.month ++ '-' ::
      (padded 2 t.day ++ 'T' :: (padded 2 t.hour ++ ':' :: (padded 2 t.minute ++ ':' ::
      (padded 2 t.second ++ []))))) := by
    simp [instantChars]
  have known : calendarYears (t.year : Int) = true := by
    simp only [calendarYears, Bool.and_eq_true, decide_eq_true_eq]
    omega
  have mod : ((t.year : Int) % 400).toNat = t.year % 400 := by omega
  have instant :
      ({ t with year := (t.year : Int).toNat, second := min t.second 59 } : Instant) = t := by
    rw [Int.toNat_natCast, Nat.min_eq_left (by omega)]
  unfold parse
  rw [String.toList_ofList, chars]
  -- every number is taken with its full width, which leaves the mark behind it
  simp only [readYear_padded year, readMark_cons, bind, Except.bind,
    readPart_padded month month' (by decide),
    readPart_padded first (Nat.le_trans last (monthLength_le _ _)) (by decide),
    readPart_padded (Nat.zero_le _) (Nat.le_of_lt_succ hour) (by decide),
    readPart_padded (Nat.zero_le _) (Nat.le_of_lt_succ minute) (by decide),
    readPart_padded (Nat.zero_le _) (Nat.le_of_lt second) (by decide)]
  -- what has been read is a day of its month
  simp only [known, mod, monthLength_mod, Nat.not_lt.mpr last, instant, List.isEmpty_nil,
    Bool.not_true, decide_false, Bool.or_self, Bool.false_eq_true, ↓reduceIte, Int.ofNat_lt,
    Bool.or_eq_true, decide_eq_true_eq]
  split <;> rfl

/-- **A time of the chain is read back from its text.** -/
theorem parse_text (time : ChainTime) : parse time.text = .ok time := by
  have small := time.seconds.toNat_lt
  have seconds := seconds_ofSeconds time.seconds.toNat
  have parsed := parse_instantChars (valid_ofSeconds time.seconds.toNat) (year_ofSeconds_lt small)
  have counted : ¬ ((Instant.ofSeconds time.seconds.toNat).year < epochYear ∨
      0x100000000 ≤ (Instant.ofSeconds time.seconds.toNat).seconds) := by
    rw [seconds, not_or, Nat.not_lt, Nat.not_le]
    exact ⟨(dates_ofSeconds _).year, small⟩
  rw [if_neg counted, seconds, Nat.toUInt32, UInt32.ofNat_toNat] at parsed
  exact parsed

/-- A time of the chain that is written is read back. -/
theorem reads_write (time : ChainTime) : Json.Reads read time.write time := by
  refine (Json.reads_writeText time.text "a string").andThen fun rest => ?_
  simp only [parse_text]
  rfl

end BlogGateway.ChainTime
