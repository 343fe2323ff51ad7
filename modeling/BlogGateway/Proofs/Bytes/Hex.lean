/-
Hexadecimal digits.

A digit is read back as its value, is an ASCII character, and is not the zero byte; there are
sixteen, so all of that is looked up.  Bytes in hexadecimal are made of digits only.
-/
import BlogGateway.Bytes.Hex

namespace BlogGateway

namespace Ascii

theorem hexValue?_hexDigit {value : UInt8} (h : value.toNat < 16) :
    hexValue? (hexDigit value) = some value := by
  have hall : ∀ i : Fin 16, hexValue? (hexDigit (UInt8.ofNat i.val))
      = some (UInt8.ofNat i.val) := by decide
  simpa using hall ⟨value.toNat, h⟩

theorem hexDigit_lt {value : UInt8} (h : value.toNat < 16) :
    (hexDigit value).toNat < 128 := by
  have hall : ∀ i : Fin 16, (hexDigit (UInt8.ofNat i.val)).toNat < 128 := by decide
  simpa using hall ⟨value.toNat, h⟩

theorem hexValue?_lt {b : UInt8} (h : (hexValue? b).isSome) : b.toNat < 128 := by
  simp only [hexValue?, isDigit, Bool.and_eq_true, decide_eq_true_eq, UInt8.le_iff_toNat_le] at h
  split at h
  · rename_i digit
    exact Nat.lt_of_le_of_lt digit.2 (by decide)
  · split at h
    · rename_i letter
      exact Nat.lt_of_le_of_lt letter.2 (by decide)
    · split at h
      · rename_i letter
        exact Nat.lt_of_le_of_lt letter.2 (by decide)
      · cases h

theorem hexDigit_ne_zero {value : UInt8} (h : value.toNat < 16) : hexDigit value ≠ 0 := by
  have hall : ∀ i : Fin 16, hexDigit (UInt8.ofNat i.val) ≠ 0 := by decide
  simpa using hall ⟨value.toNat, h⟩

end Ascii

namespace Hex

/-- The two digits of a byte tell it. -/
theorem digits_injective {a b : UInt8}
    (high : Ascii.hexDigit (a / 16) = Ascii.hexDigit (b / 16))
    (low : Ascii.hexDigit (a % 16) = Ascii.hexDigit (b % 16)) : a = b := by
  have digit {m n : UInt8} (hm : m.toNat < 16) (hn : n.toNat < 16)
      (h : Ascii.hexDigit m = Ascii.hexDigit n) : m.toNat = n.toNat := by
    have values := congrArg Ascii.hexValue? h
    rw [Ascii.hexValue?_hexDigit hm, Ascii.hexValue?_hexDigit hn] at values
    exact congrArg UInt8.toNat (Option.some.inj values)
  have div (n : UInt8) : (n / 16).toNat = n.toNat / 16 := UInt8.toNat_div n 16
  have mod (n : UInt8) : (n % 16).toNat = n.toNat % 16 := UInt8.toNat_mod n 16
  have ha := a.toNat_lt
  have hb := b.toNat_lt
  have high := digit (by rw [div]; omega) (by rw [div]; omega) high
  have low := digit (by rw [mod]; omega) (by rw [mod]; omega) low
  rw [div, div] at high
  rw [mod, mod] at low
  exact UInt8.toNat_inj.mp (by omega)

theorem ne_zero_of_mem_encode {bytes : Bytes} {b : UInt8} (h : b ∈ encode bytes) : b ≠ 0 := by
  unfold encode at h
  rw [List.mem_flatMap] at h
  obtain ⟨byte, -, hb⟩ := h
  have hbyte := byte.toNat_lt
  simp only [List.mem_cons, List.not_mem_nil, or_false] at hb
  rcases hb with rfl | rfl
  · apply Ascii.hexDigit_ne_zero
    simp
    omega
  · apply Ascii.hexDigit_ne_zero
    simp
    omega

theorem encode_ne_nil {bytes : Bytes} (h : bytes ≠ []) : encode bytes ≠ [] := by
  cases bytes with
  | nil => exact absurd rfl h
  | cons b rest => simp [encode]

end Hex

end BlogGateway
