/-
Hexadecimal texts and the bytes that they spell.

A text spells bytes when its characters, taken in pairs, are the digits of their values, and a
letter stands for the same value in either case.  That is said of characters, while the decoder
looks at the bytes of a text; the two agree since a digit is an ASCII character and so one byte, and
no byte of any other character is a digit.
-/
import BlogGateway.Proofs.Bytes.Hex
import BlogGateway.Proofs.Bytes.Utf8
import BlogGateway.Proofs.Except

namespace BlogGateway.Hex

variable {c : Char} {value position : Nat} {chars chars' : List Char} {s bytes : Bytes}
  {text : String}

/-- The value of a hexadecimal digit, where the case of a letter says nothing. -/
def value? (c : Char) : Option Nat := "0123456789abcdef".toList.idxOf? c.toLower

/-- The characters are two digits for each of the bytes. -/
inductive Spells : List Char → Bytes → Prop
  | nil : Spells [] []
  | cons {a b : Char} {high low : Nat} {chars : List Char} {bytes : Bytes}
      (first : value? a = some high) (second : value? b = some low) (rest : Spells chars bytes) :
      Spells (a :: b :: chars) ((high * 16 + low).toUInt8 :: bytes)

/-! ### Digits -/

theorem lt_of_value? (h : value? c = some value) : value < 16 ∧ c.toNat < 128 := by
  obtain ⟨within, same, -⟩ := List.idxOf?_eq_some_iff.mp h
  have small : ("0123456789abcdef".toList.all fun digit => digit.toNat < 128) = true := by decide
  have lower : c.toLower.toNat < 128 :=
    same ▸ of_decide_eq_true (List.all_eq_true.mp small _ (List.getElem_mem within))
  refine ⟨within, ?_⟩
  unfold Char.toLower at lower
  split at lower
  · rename_i upper
    exact Nat.lt_of_le_of_lt (UInt32.le_iff_toNat_le.mp upper.2) (by decide)
  · exact lower

/-- A digit is read from its byte as its value. -/
theorem hexValue?_of_ascii (ascii : c.toNat < 128) :
    Ascii.hexValue? c.toNat.toUInt8 = (value? c).map Nat.toUInt8 := by
  have hall : ∀ i : Fin 128, Ascii.hexValue? i.val.toUInt8
      = (value? (Char.ofNat i.val)).map Nat.toUInt8 := by decide +kernel
  simpa using hall ⟨c.toNat, ascii⟩

theorem hexValue?_of_value? (h : value? c = some value) :
    String.utf8EncodeChar c = [c.toNat.toUInt8] ∧
      Ascii.hexValue? c.toNat.toUInt8 = some value.toUInt8 := by
  obtain ⟨-, ascii⟩ := lt_of_value? h
  exact ⟨Bytes.utf8EncodeChar_of_ascii ascii, by rw [hexValue?_of_ascii ascii, h]; rfl⟩

/-- A character is a digit when its bytes are. -/
theorem isSome_value? (digits : ∀ b ∈ String.utf8EncodeChar c, (Ascii.hexValue? b).isSome) :
    (value? c).isSome := by
  obtain ⟨b, hmem⟩ := List.exists_mem_of_ne_nil _ (@String.utf8EncodeChar_ne_nil c)
  have small := Ascii.hexValue?_lt (digits b hmem)
  have ascii : c.toNat < 128 := Bytes.toNat_of_mem_utf8EncodeChar hmem small ▸ small
  have own := digits c.toNat.toUInt8 (by simp [Bytes.utf8EncodeChar_of_ascii ascii])
  rwa [hexValue?_of_ascii ascii, Option.isSome_map] at own

/-! ### Pairs of digits -/

theorem Spells.digits (spells : Spells chars bytes) : ∀ c ∈ chars, (value? c).isSome := by
  induction spells with
  | nil => simp
  | cons first second _ ih =>
      refine List.forall_mem_cons.mpr ⟨?_, List.forall_mem_cons.mpr ⟨?_, ih⟩⟩
      · rw [first]
        rfl
      · rw [second]
        rfl

theorem Spells.length (spells : Spells chars bytes) : chars.length = 2 * bytes.length := by
  induction spells with
  | nil => rfl
  | cons _ _ _ ih =>
      rw [List.length_cons, List.length_cons, List.length_cons, ih]
      omega

/-- Digits in pairs spell some bytes. -/
theorem exists_spells : ∀ {chars : List Char}, (∀ c ∈ chars, (value? c).isSome) →
    chars.length % 2 = 0 → ∃ bytes, Spells chars bytes
  | [], _, _ => ⟨[], .nil⟩
  | [_], _, even => nomatch even
  | a :: b :: chars, digits, even => by
      obtain ⟨first, digits⟩ := List.forall_mem_cons.mp digits
      obtain ⟨second, digits⟩ := List.forall_mem_cons.mp digits
      obtain ⟨high, first⟩ := Option.isSome_iff_exists.mp first
      obtain ⟨low, second⟩ := Option.isSome_iff_exists.mp second
      rw [List.length_cons, List.length_cons, Nat.add_assoc, Nat.add_mod_right] at even
      obtain ⟨bytes, rest⟩ := exists_spells digits even
      exact ⟨_, .cons first second rest⟩

/-- The case of letters says nothing about the bytes. -/
theorem Spells.of_lower (spells : Spells chars bytes)
    (same : chars.map Char.toLower = chars'.map Char.toLower) : Spells chars' bytes := by
  induction spells generalizing chars' with
  | nil =>
      obtain rfl := List.map_eq_nil_iff.mp same.symm
      exact .nil
  | cons first second _ ih =>
      obtain ⟨a', chars', rfl, a, same⟩ := List.map_eq_cons_iff.mp same.symm
      obtain ⟨b', chars', rfl, b, same⟩ := List.map_eq_cons_iff.mp same
      rw [value?, ← a] at first
      rw [value?, ← b] at second
      exact .cons first second (ih same.symm)

/-! ### Decoding -/

theorem decodeFrom_of_spells (spells : Spells chars bytes) (position : Nat) :
    decodeFrom position (chars.flatMap String.utf8EncodeChar) = .ok bytes := by
  induction spells generalizing position with
  | nil => rfl
  | @cons _ _ high low _ _ first second _ ih =>
      obtain ⟨byte, first⟩ := hexValue?_of_value? first
      obtain ⟨byte', second⟩ := hexValue?_of_value? second
      have both : high.toUInt8 * 16 + low.toUInt8 = (high * 16 + low).toUInt8 := by
        simp [Nat.toUInt8]
      simp only [List.flatMap_cons, byte, byte', List.singleton_append, decodeFrom, first, second,
        ih, both]
      rfl

theorem digits_of_decodeFrom (h : decodeFrom position s = .ok bytes) :
    ∀ b ∈ s, (Ascii.hexValue? b).isSome := by
  fun_induction decodeFrom position s generalizing bytes with
  | case1 => simp
  | case2 => cases h
  | case3 => cases h
  | case4 => cases h
  | case5 position a b s high low second first ih =>
      obtain ⟨rest, decoded, -⟩ := Except.bind_eq_ok_iff.mp h
      exact List.forall_mem_cons.mpr ⟨by simp [first], List.forall_mem_cons.mpr ⟨by simp [second],
        ih decoded⟩⟩

/-- What is decoded at all is made of digits. -/
theorem digits_of_decode (h : decode (Bytes.ofText text) = .ok bytes) :
    ∀ c ∈ text.toList, (value? c).isSome := by
  unfold decode at h
  split at h
  · intro c hmem
    refine isSome_value? fun b own => digits_of_decodeFrom h b ?_
    rw [Bytes.ofText_eq_flatMap]
    exact List.mem_flatMap_of_mem hmem own
  · cases h

/-- Digits are as many bytes as characters. -/
theorem length_ofText (digits : ∀ c ∈ text.toList, (value? c).isSome) :
    (Bytes.ofText text).length = text.toList.length := by
  have one : ∀ c ∈ text.toList, (String.utf8EncodeChar c).length = 1 := by
    intro c hmem
    obtain ⟨value, known⟩ := Option.isSome_iff_exists.mp (digits c hmem)
    rw [(hexValue?_of_value? known).1]
    rfl
  rw [Bytes.ofText_eq_flatMap, List.length_flatMap, List.map_congr_left one]
  simp

/-- **A text is decoded as the bytes that it spells, and only as these.** -/
theorem decode_eq_ok_iff : decode (Bytes.ofText text) = .ok bytes ↔ Spells text.toList bytes := by
  have decoded (bytes : Bytes) (spells : Spells text.toList bytes) :
      decode (Bytes.ofText text) = .ok bytes := by
    have even : (Bytes.ofText text).length % 2 = 0 := by
      rw [length_ofText spells.digits, spells.length]
      exact Nat.mul_mod_right ..
    rw [decode, if_pos even, Bytes.ofText_eq_flatMap]
    exact decodeFrom_of_spells spells 0
  refine ⟨fun h => ?_, decoded bytes⟩
  have digits := digits_of_decode h
  have even : (Bytes.ofText text).length % 2 = 0 := by
    unfold decode at h
    split at h
    · assumption
    · cases h
  rw [length_ofText digits] at even
  obtain ⟨bytes', spells⟩ := exists_spells digits even
  rwa [Except.ok.inj (h.symm.trans (decoded bytes' spells))]

end BlogGateway.Hex
