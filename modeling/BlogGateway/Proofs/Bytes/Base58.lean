/-
Base 58 is written and read back.

A text in base 58 and the bytes that it stands for have the same two numbers: the zeros in front,
which are counted, and the number behind them, which is written in the one base or the other.  So
either is made from the other without a loss, and no text but the written one is read as the same
bytes.
-/
import BlogGateway.Bytes.Base58
import BlogGateway.Proofs.Bytes.Number

namespace BlogGateway.Base58

open Bytes

variable {s bytes : Bytes} {b : UInt8} {value zeros n : Nat} {values : List Nat}

/-! ### Digits -/

theorem value?_digit (h : value < 58) : value? (digit value) = some value := by
  have hall : ∀ i : Fin 58, value? (digit i) = some i.val := by decide
  exact hall ⟨value, h⟩

/-- What has a value is the digit of this value. -/
theorem digit_of_value? (h : value? b = some value) : value < 58 ∧ digit value = b := by
  obtain ⟨within, same, -⟩ := List.findIdx?_eq_some_iff_getElem.mp h
  refine ⟨within, ?_⟩
  rw [digit, List.getD_eq_getElem?_getD, List.getElem?_eq_getElem within]
  simpa using same

/-- One digit only stands for zero. -/
theorem eq_zero_of_digit (value : Nat) (h : value < 58) (same : digit value = digit 0) :
    value = 0 := by
  have values := congrArg value? same
  rw [value?_digit h, value?_digit (by decide)] at values
  exact Option.some.inj values

theorem mapM_value? (small : ∀ value ∈ values, value < 58) :
    (values.map digit).mapM value? = some values := by
  induction values with
  | nil => rfl
  | cons value values ih =>
      obtain ⟨own, others⟩ := List.forall_mem_cons.mp small
      rw [List.map_cons, List.mapM_cons, value?_digit own, ih others]
      rfl

theorem eq_map_digit (h : s.mapM value? = some values) :
    (∀ value ∈ values, value < 58) ∧ values.map digit = s := by
  induction s generalizing values with
  | nil =>
      obtain rfl : [] = values := Option.some.inj h
      simp
  | cons b s ih =>
      rw [List.mapM_cons] at h
      obtain ⟨value, own, h⟩ := Option.bind_eq_some_iff.mp h
      obtain ⟨values', others, h⟩ := Option.bind_eq_some_iff.mp h
      obtain rfl := Option.some.inj h
      obtain ⟨small, rfl⟩ := ih others
      obtain ⟨within, rfl⟩ := digit_of_value? own
      exact ⟨List.forall_mem_cons.mpr ⟨within, small⟩, rfl⟩

/-! ### Texts -/

theorem encode_spelled (zeros n : Nat) :
    encode (spelled 256 Nat.toUInt8 zeros n) = spelled 58 digit zeros n := by
  have own (value : Nat) (h : value < 256) (same : value.toUInt8 = Nat.toUInt8 0) : value = 0 := by
    rw [← UInt8.toNat_ofNat_of_lt h]
    exact congrArg UInt8.toNat same
  have counted := count_zeros (by decide) own zeros n
  rw [encode, toNat_spelled, spelled_eq 58]
  exact congrArg (List.replicate · zeroDigit ++ _) counted

theorem decode?_spelled (zeros n : Nat) :
    decode? (spelled 58 digit zeros n) = some (spelled 256 Nat.toUInt8 zeros n) := by
  have counted := count_zeros (by decide) eq_zero_of_digit zeros n
  have values : (spelled 58 digit zeros n).mapM value? = _ :=
    mapM_value? fun value h => lt_of_mem_zeros_digits (by decide) h
  have first : digit 0 = zeroDigit := by decide
  rw [first] at counted
  have spells : ofDigits 58 (List.replicate zeros 0 ++ digits 58 n) = n :=
    (ofDigits_zeros ..).trans (ofDigits_digits (by decide) n)
  simp only [decode?, values, counted, Option.bind_eq_bind, Option.bind_some, spells,
    spelled_eq 256]
  rfl

/-- **The text of bytes in base 58 is the one that is read as them.** -/
theorem decode?_eq_some_iff : decode? s = some bytes ↔ s = encode bytes := by
  constructor
  · intro h
    obtain ⟨values, known, -⟩ := Option.bind_eq_some_iff.mp h
    obtain ⟨small, rfl⟩ := eq_map_digit known
    obtain ⟨zeros, split⟩ := exists_zeros (by decide) small
    rw [split, ← spelled] at h ⊢
    rw [decode?_spelled] at h
    rw [← Option.some.inj h, encode_spelled]
  · rintro rfl
    obtain ⟨zeros, split⟩ := exists_spelled bytes
    rw [split, encode_spelled, decode?_spelled]

example : encode [0x00, 0x00, 0x28, 0x7F, 0xB4, 0xCD] = Bytes.ofText "11233QC4" := by decide

end BlogGateway.Base58
