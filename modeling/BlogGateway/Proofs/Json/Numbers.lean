/-
Whole numbers and truth values are read back.

A whole number is written in decimal, and its digits are the characters of `Nat.toDigits`.
Reading takes digits in as long as the number stays within 64 bits; a number that does so in
the end does so all the way, since digits only make it larger.  The first digit is zero for
zero alone, which is what JSON demands of a number.
-/
import BlogGateway.Json.Value
import BlogGateway.Proofs.Bytes.Utf8
import BlogGateway.Proofs.Json.Reading

namespace BlogGateway.Json

open Ascii

variable {n acc count limit high : Nat} {c : Char} {chars : List Char} {rest : Bytes}

/-! ### Digits -/

/-- The byte of a digit, and what it stands for. -/
theorem byte_of_isDigit (h : c.isDigit) :
    isDigit (byte c) ∧ (byte c - 0x30).toNat = c.toNat - 0x30 ∧ (byte c).toNat = c.toNat ∧
      c.toNat < 128 := by
  have bounds : 48 ≤ c.toNat ∧ c.toNat ≤ 57 := by
    simpa [Char.isDigit, UInt32.le_iff_toNat_le] using h
  have number : (byte c).toNat = c.toNat := by
    show (UInt8.ofNat c.toNat).toNat = c.toNat
    rw [UInt8.toNat_ofNat']
    omega
  refine ⟨?_, ?_, number, by omega⟩
  · simp only [isDigit, Bool.and_eq_true, decide_eq_true_eq, UInt8.le_iff_toNat_le, number]
    exact bounds
  · rw [UInt8.toNat_sub_of_le _ _ (by rw [UInt8.le_iff_toNat_le, number]; exact bounds.1), number]
    rfl

theorem isDigit_of_mem_toDigits (h : c ∈ Nat.toDigits 10 n) : c.isDigit :=
  Nat.isDigit_of_mem_toDigits (by decide) (by decide) h

/-- A number is written as the bytes of its digits. -/
theorem ofText_toString (n : Nat) :
    Bytes.ofText (toString n) = (Nat.toDigits 10 n).map byte := by
  rw [Bytes.ofText_eq_flatMap, Nat.toString_eq_ofList_toDigits, String.toList_ofList,
    List.flatMap_congr fun c hmem =>
      Bytes.utf8EncodeChar_of_ascii (byte_of_isDigit (isDigit_of_mem_toDigits hmem)).2.2.2]
  exact List.flatMap_pure_eq_map ..

/-- The first digit of a number other than zero is not zero. -/
theorem head_toDigits (h : 0 < n) : ∃ c cs, Nat.toDigits 10 n = c :: cs ∧ c ≠ '0' := by
  induction n using Nat.strongRecOn with
  | ind n ih =>
      by_cases small : n < 10
      · refine ⟨_, _, Nat.toDigits_of_lt_base small, fun zero => ?_⟩
        rw [Nat.digitChar_eq_zero] at zero
        omega
      · obtain ⟨c, cs, first, ne⟩ := ih (n / 10) (by omega) (by omega)
        refine ⟨c, cs ++ [Nat.digitChar (n % 10)], ?_, ne⟩
        rw [Nat.toDigits_of_base_le (by decide) (by omega), first]
        rfl

/-- Digits make a number no smaller. -/
theorem le_ofDigitChars (chars : List Char) (acc : Nat) : acc ≤ Nat.ofDigitChars 10 chars acc := by
  rw [Nat.ofDigitChars_eq_ofDigitChars_zero]
  have := Nat.le_mul_of_pos_left acc (Nat.pow_pos (n := chars.length) (by decide : 0 < 10))
  omega

/-- What follows a number that is read is no digit, no point and no exponent. -/
theorem not_digit_of_stops {b : UInt8} (stops : Stops (b :: rest)) :
    isDigit b = false ∧ b ≠ point ∧ b ≠ lowerE ∧ b ≠ upperE := by
  have hb := stops b rfl
  simp only [List.mem_cons, List.not_mem_nil, or_false] at hb
  rcases hb with rfl | rfl | rfl | rfl | rfl | rfl | rfl <;> decide

/-- Digits are taken in up to the end of the number, when it fits. -/
theorem absorb_digits (digits : ∀ c ∈ chars, c.isDigit)
    (fits : Nat.ofDigitChars 10 chars acc ≤ limit) (stops : Stops rest) :
    absorb limit acc count (chars.map byte ++ rest)
      = (Nat.ofDigitChars 10 chars acc, count + chars.length, rest) := by
  induction chars generalizing acc count with
  | nil =>
      cases rest with
      | nil => rfl
      | cons b rest =>
          simp only [List.map_nil, List.nil_append, absorb, (not_digit_of_stops stops).1]
          rfl
  | cons c chars ih =>
      obtain ⟨digit, value, -, -⟩ := byte_of_isDigit (digits c (List.mem_cons_self ..))
      have next : acc * 10 + (byte c - 0x30).toNat = 10 * acc + (c.toNat - '0'.toNat) := by
        rw [value, Nat.mul_comm]
        rfl
      rw [Nat.ofDigitChars_cons] at fits ⊢
      have within := Nat.le_trans (le_ofDigitChars chars (10 * acc + (c.toNat - '0'.toNat))) fits
      rw [List.map_cons, List.cons_append, absorb, if_pos digit]
      simp only [next]
      rw [if_neg (Nat.not_lt.mpr within),
        ih (fun c' hmem => digits c' (List.mem_cons_of_mem c hmem)) fits, List.length_cons]
      simp only [Prod.mk.injEq, true_and, and_true]
      omega

/-! ### Whole numbers -/

/-- A number ends where nothing goes on. -/
theorem readNumberEnd_stops (negative : Bool) (n : Nat) (stops : Stops rest) :
    readNumberEnd negative n rest = readNumberEnd.whole negative n rest := by
  cases rest with
  | nil => rfl
  | cons b rest =>
      obtain ⟨digit, ne_point, ne_lower, ne_upper⟩ := not_digit_of_stops stops
      unfold readNumberEnd
      simp [digit, ne_point, ne_lower, ne_upper]

/-- The bytes of a number: a lone zero, or digits of which the first is another. -/
theorem digits_cases (n : Nat) :
    n = 0 ∧ (Nat.toDigits 10 n).map byte = [0x30] ∨
      ∃ b s, (Nat.toDigits 10 n).map byte = b :: s ∧ isDigit b ∧ b ≠ 0x30 ∧
        ∀ d ∈ s, isDigit d := by
  rcases Nat.eq_zero_or_pos n with rfl | positive
  · exact .inl ⟨rfl, rfl⟩
  · right
    obtain ⟨c, cs, split, ne_zero⟩ := head_toDigits positive
    have digits : ∀ c' ∈ c :: cs, c'.isDigit := fun c' hmem =>
      isDigit_of_mem_toDigits (split ▸ hmem)
    obtain ⟨digit, -, number, -⟩ := byte_of_isDigit (digits c (List.mem_cons_self ..))
    refine ⟨byte c, cs.map byte, by rw [split, List.map_cons], digit, fun same => ?_, ?_⟩
    · rw [same] at number
      exact ne_zero (Char.toNat_inj.mp number.symm)
    · intro d hmem
      obtain ⟨c', hc', rfl⟩ := List.mem_map.mp hmem
      exact (byte_of_isDigit (digits c' (List.mem_cons_of_mem c hc'))).1

/-- All digits of a number are taken in, behind a sign or without one. -/
theorem readNumber_digits (negative : Bool) (fits : n ≤ significandLimit) (stops : Stops rest) :
    readNumber negative ((Nat.toDigits 10 n).map byte ++ rest)
      = readNumberEnd.whole negative n rest := by
  have absorbed : absorb significandLimit 0 0 ((Nat.toDigits 10 n).map byte ++ rest) = _ :=
    absorb_digits (fun c hmem => isDigit_of_mem_toDigits hmem)
      (by rwa [Nat.ofDigitChars_ten_toDigits]) stops
  rw [Nat.ofDigitChars_ten_toDigits] at absorbed
  rcases digits_cases n with ⟨rfl, zero⟩ | ⟨b, s, split, digit, ne_zero, -⟩
  · rw [zero, List.singleton_append]
    have ended := readNumberEnd_stops negative 0 stops
    cases rest with
    | nil => exact ended
    | cons b rest =>
        simp only [readNumber, (not_digit_of_stops stops).1, ↓reduceIte, ended]
        rfl
  · rw [split] at absorbed ⊢
    rw [List.cons_append] at absorbed ⊢
    simp only [readNumber, ne_zero, digit, ↓reduceIte, absorbed]
    exact readNumberEnd_stops negative n stops

/-- A number in decimal, with a sign or without one, is a JSON number. -/
theorem isNumber_digits {sign : Bytes} (signed : sign ∈ [[], [minus]]) (n : Nat) :
    IsNumber (sign ++ (Nat.toDigits 10 n).map byte) := by
  have whole : IsWhole ((Nat.toDigits 10 n).map byte) := by
    rcases digits_cases n with ⟨-, zero⟩ | ⟨b, s, split, digit, ne_zero, more⟩
    · rw [zero]
      exact .zero
    · rw [split]
      exact .positive digit ne_zero more
  have number := IsNumber.mk signed whole .none .none
  rwa [List.append_nil, List.append_nil] at number

/-- A number in decimal begins with a digit. -/
theorem exists_digit (n : Nat) : ∃ b s, (Nat.toDigits 10 n).map byte = b :: s ∧ isDigit b := by
  rcases digits_cases n with ⟨-, zero⟩ | ⟨b, s, split, digit, -, -⟩
  · exact ⟨_, _, zero, rfl⟩
  · exact ⟨b, s, split, digit⟩

/-- A number in decimal is read back when it fits. -/
theorem reads_anyNumber (fits : n ≤ significandLimit) (wanted : String) :
    Reads (readAnyNumber wanted) (Bytes.ofText (toString n)) (.whole n) := by
  have value : IsValue ((Nat.toDigits 10 n).map byte) := by
    have number := isNumber_digits (List.mem_cons_self ..) n
    exact .number number
  have taken {rest : Bytes} (stops : Stops rest) := readNumber_digits false fits stops
  obtain ⟨b, s, split, digit⟩ := exists_digit n
  rw [ofText_toString]
  rw [split] at value taken ⊢
  refine reads_atValue value fun rest stops => ?_
  have ne_minus : b ≠ minus := ne_of_isDigit digit rfl
  have read_eq := taken stops
  rw [List.cons_append] at read_eq
  simp only [ne_minus, digit, ↓reduceIte, read_eq]
  rfl

/-- A number below zero is read back when it fits. -/
theorem reads_anyNumber_neg (positive : 0 < n) (fits : n ≤ 0x8000000000000000) (wanted : String) :
    Reads (readAnyNumber wanted) (minus :: Bytes.ofText (toString n)) (.whole (-n)) := by
  have within : n ≤ significandLimit := Nat.le_trans fits (by decide)
  have number : IsNumber ([minus] ++ (Nat.toDigits 10 n).map byte) :=
    isNumber_digits (by decide) n
  rw [ofText_toString]
  refine reads_atValue (.number number) fun rest stops => ?_
  have float : (n = 0 || decide (0x8000000000000000 < n)) = false := by
    simp only [Bool.or_eq_false_iff, decide_eq_false_iff_not]
    omega
  simp only [↓reduceIte, readNumber_digits true within stops, readNumberEnd.whole, float,
    Bool.not_true, Bool.false_eq_true]
  rfl

/-- A number in decimal is read back by readers whose range it is in. -/
theorem reads_whole (fits : n ≤ significandLimit) (within : n ≤ high) (wanted : String) :
    Reads (readWhole 0 high wanted) (Bytes.ofText (toString n)) (n : Int) := by
  refine (reads_anyNumber fits wanted).andThen fun rest => ?_
  have range : (decide ((0 : Int) ≤ n) && decide ((n : Int) ≤ high)) = true := by
    simp only [Bool.and_eq_true, decide_eq_true_eq]
    omega
  simp only [range, ↓reduceIte]

theorem reads_uint16 (n : UInt16) : Reads readUInt16 (Bytes.ofText (toString n.toNat)) n := by
  have fits : n.toNat ≤ significandLimit := Nat.le_trans (Nat.le_of_lt n.toNat_lt) (by decide)
  have within : n.toNat ≤ 0xFFFF := Nat.le_of_lt_succ n.toNat_lt
  refine (reads_whole fits within "u16").andThen fun rest => ?_
  simp only [Int.toNat_natCast, UInt16.ofNat_toNat, pure, Except.pure, Nat.toUInt16]

theorem reads_uint32 (n : UInt32) : Reads readUInt32 (Bytes.ofText (toString n.toNat)) n := by
  have fits : n.toNat ≤ significandLimit := Nat.le_trans (Nat.le_of_lt n.toNat_lt) (by decide)
  have within : n.toNat ≤ 0xFFFFFFFF := Nat.le_of_lt_succ n.toNat_lt
  refine (reads_whole fits within "u32").andThen fun rest => ?_
  simp only [Int.toNat_natCast, UInt32.ofNat_toNat, pure, Except.pure, Nat.toUInt32]

theorem reads_uint64 (n : UInt64) : Reads readUInt64 (Bytes.ofText (toString n.toNat)) n := by
  have fits : n.toNat ≤ significandLimit := Nat.le_of_lt_succ n.toNat_lt
  refine (reads_whole fits fits "u64").andThen fun rest => ?_
  simp only [Int.toNat_natCast, UInt64.ofNat_toNat, pure, Except.pure, Nat.toUInt64]

section Signed

variable {number : Int}

/-- Below zero a number is written with a sign. -/
theorem ofText_negSucc (m : Nat) :
    Bytes.ofText (toString (Int.negSucc m)) = minus :: Bytes.ofText (toString (m + 1)) :=
  Bytes.ofText_append "-" _

/-- A number of 64 bits is read back from its decimal text. -/
theorem reads_anyNumber_int (low : -0x8000000000000000 ≤ number)
    (high : number ≤ 0xFFFFFFFFFFFFFFFF) (wanted : String) :
    Reads (readAnyNumber wanted) (Bytes.ofText (toString number)) (.whole number) := by
  cases number with
  | ofNat n => exact reads_anyNumber (Int.ofNat_le.mp high) wanted
  | negSucc m =>
      have fits : m + 1 ≤ 0x8000000000000000 := by omega
      rw [ofText_negSucc]
      exact reads_anyNumber_neg (Nat.succ_pos m) fits wanted

theorem reads_int64 (low : -0x8000000000000000 ≤ number) (high : number ≤ 0x7FFFFFFFFFFFFFFF) :
    Reads readInt64 (Bytes.ofText (toString number)) number := by
  have any := reads_anyNumber_int low (Int.le_trans high (by decide)) "i64"
  refine any.andThen fun rest => ?_
  have range : (decide (-0x8000000000000000 ≤ number) && decide (number ≤ 0x7FFFFFFFFFFFFFFF))
      = true := by
    simp only [Bool.and_eq_true, decide_eq_true_eq]
    exact ⟨low, high⟩
  simp only [range, ↓reduceIte]

end Signed

/-! ### Truth values -/

theorem reads_writeBool (value : Bool) : Reads readBool (writeBool value) value := by
  cases value with
  | true =>
      have spelled : writeBool true = [0x74, 0x72, 0x75, 0x65] := by decide
      rw [spelled]
      exact reads_atValue .true fun rest _ => rfl
  | false =>
      have spelled : writeBool false = [0x66, 0x61, 0x6C, 0x73, 0x65] := by decide
      rw [spelled]
      exact reads_atValue .false fun rest _ => rfl

end BlogGateway.Json
