/-
Digits and the numbers that they spell.

A number has one list of digits without a zero in front, so a list of digits is told by two
numbers: how many zeros it begins with, and what it spells.  Bytes are digits of the base 256, and
are told by the same two numbers.
-/
import BlogGateway.Bytes.Number
import Mathlib.Data.Nat.Digits.Lemmas

namespace BlogGateway.Bytes

variable {base n zeros value : Nat} {values : List Nat}

/-! ### The digits of a number -/

theorem digitsOnto_eq (two : 1 < base) {fuel : Nat} (done : List Nat) (h : n < base ^ fuel) :
    digitsOnto base fuel n done = (Nat.digits base n).reverse ++ done := by
  induction fuel generalizing n done with
  | zero =>
      obtain rfl : n = 0 := Nat.lt_one_iff.mp h
      simp [digitsOnto]
  | succ fuel ih =>
      by_cases zero : n = 0
      · simp [digitsOnto, zero]
      · have less : n / base < base ^ fuel := Nat.div_lt_of_lt_mul (Nat.pow_succ' ▸ h)
        rw [digitsOnto, if_neg zero, ih _ less,
          Nat.digits_def' two (Nat.pos_of_ne_zero zero), List.reverse_cons, List.append_assoc]
        rfl

theorem digits_eq (two : 1 < base) (n : Nat) : digits base n = (Nat.digits base n).reverse := by
  have enough : n < base ^ (n.log2 + 1) :=
    Nat.lt_of_lt_of_le Nat.lt_log2_self (Nat.pow_le_pow_left two _)
  rw [digits, digitsOnto_eq two [] enough, List.append_nil]

theorem ofDigits_eq (base : Nat) (values : List Nat) :
    ofDigits base values = Nat.ofDigits base values.reverse := by
  rw [Nat.ofDigits_eq_foldr, List.foldr_reverse]
  simp only [ofDigits, Nat.cast_id, Nat.mul_comm, Nat.add_comm]

theorem lt_of_mem_digits (two : 1 < base) (h : value ∈ digits base n) : value < base := by
  rw [digits_eq two, List.mem_reverse] at h
  exact Nat.digits_lt_base two h

theorem lt_of_mem_zeros_digits (two : 1 < base)
    (h : value ∈ List.replicate zeros 0 ++ digits base n) : value < base := by
  rcases List.mem_append.mp h with h | h
  · rw [List.eq_of_mem_replicate h]
    exact Nat.lt_of_succ_lt two
  · exact lt_of_mem_digits two h

/-- No number has a zero in front. -/
theorem head?_digits (two : 1 < base) (n : Nat) : ∀ value ∈ (digits base n).head?, value ≠ 0 := by
  intro value first
  rw [digits_eq two, List.head?_reverse] at first
  obtain ⟨nonempty, rfl⟩ := List.mem_getLast?_eq_getLast first
  exact Nat.getLast_digit_ne_zero base (Nat.digits_ne_nil_iff_ne_zero.mp nonempty)

theorem ofDigits_zeros (base zeros : Nat) (values : List Nat) :
    ofDigits base (List.replicate zeros 0 ++ values) = ofDigits base values := by
  induction zeros with
  | zero => rfl
  | succ zeros ih => simpa [ofDigits, List.replicate_succ] using ih

theorem ofDigits_digits (two : 1 < base) (n : Nat) : ofDigits base (digits base n) = n := by
  rw [ofDigits_eq, digits_eq two, List.reverse_reverse, Nat.ofDigits_digits]

/-- **Digits are the zeros in front and the digits of what they spell.** -/
theorem exists_zeros (two : 1 < base) (small : ∀ value ∈ values, value < base) :
    ∃ zeros, values = List.replicate zeros 0 ++ digits base (ofDigits base values) := by
  induction values with
  | nil => exact ⟨0, rfl⟩
  | cons value values ih =>
      by_cases zero : value = 0
      · obtain ⟨zeros, split⟩ := ih fun value hmem => small value (List.mem_cons_of_mem _ hmem)
        have same : ofDigits base (value :: values) = ofDigits base values := by
          rw [zero]
          exact ofDigits_zeros base 1 values
        exact ⟨zeros + 1, by rw [same, zero, List.replicate_succ, List.cons_append, ← split]⟩
      · refine ⟨0, ?_⟩
        rw [digits_eq two, ofDigits_eq, Nat.digits_ofDigits base two, List.reverse_reverse]
        · rfl
        · exact fun value hmem => small value (List.mem_reverse.mp hmem)
        · simpa using zero

/-! ### Digits as bytes -/

/-- The zeros and then the digits of the number, each written as a byte. -/
def spelled (base : Nat) (digit : Nat → UInt8) (zeros n : Nat) : Bytes :=
  (List.replicate zeros 0 ++ digits base n).map digit

theorem spelled_eq (base : Nat) (digit : Nat → UInt8) (zeros n : Nat) :
    spelled base digit zeros n
      = List.replicate zeros (digit 0) ++ (digits base n).map digit := by
  rw [spelled, List.map_append, List.map_replicate]

/-- The zeros in front can be counted, where no other digit is written as a zero. -/
theorem count_zeros (two : 1 < base) {digit : Nat → UInt8}
    (own : ∀ value < base, digit value = digit 0 → value = 0) (zeros n : Nat) :
    ((spelled base digit zeros n).takeWhile (· = digit 0)).length = zeros := by
  have none : ((digits base n).map digit).takeWhile (· = digit 0) = [] := by
    have first := head?_digits two n
    have small (value : Nat) (h : value ∈ digits base n) := lt_of_mem_digits two h
    generalize digits base n = values at first small ⊢
    cases values with
    | nil => rfl
    | cons value values =>
        have other : digit value ≠ digit 0 :=
          mt (own value (small value (List.mem_cons_self ..)))
          (first value (Option.mem_some_self value))
        simp [other]
  rw [spelled_eq, List.takeWhile_append_of_pos (by simp), none, List.append_nil,
    List.length_replicate]

/-- **Bytes are the zeros in front and the bytes of the number that they spell.** -/
theorem exists_spelled (bytes : Bytes) :
    ∃ zeros, bytes = spelled 256 Nat.toUInt8 zeros bytes.toNat := by
  have small : ∀ value ∈ bytes.map UInt8.toNat, value < 256 := by
    intro value h
    obtain ⟨b, -, rfl⟩ := List.mem_map.mp h
    exact b.toNat_lt
  obtain ⟨zeros, split⟩ := exists_zeros (by decide) small
  refine ⟨zeros, ?_⟩
  have back : (bytes.map UInt8.toNat).map Nat.toUInt8 = bytes := by
    rw [List.map_map]
    exact List.map_id'' (fun b => UInt8.ofNat_toNat) bytes
  rw [spelled, toNat, ← split, back]

theorem toNat_spelled (zeros n : Nat) : (spelled 256 Nat.toUInt8 zeros n).toNat = n := by
  have own : ∀ value ∈ List.replicate zeros 0 ++ digits 256 n, value.toUInt8.toNat = value :=
    fun value h => UInt8.toNat_ofNat_of_lt (lt_of_mem_zeros_digits (by decide) h)
  have back : ((List.replicate zeros 0 ++ digits 256 n).map Nat.toUInt8).map UInt8.toNat
      = List.replicate zeros 0 ++ digits 256 n := by
    rw [List.map_map]
    exact (List.map_congr_left own).trans (List.map_id' _)
  rw [toNat, spelled, back, ofDigits_zeros, ofDigits_digits (by decide)]

end BlogGateway.Bytes
