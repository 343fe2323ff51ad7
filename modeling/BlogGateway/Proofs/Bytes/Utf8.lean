/-
Texts as bytes.

The bytes of a text are the bytes of its characters, one character behind the other.  An
ASCII character is the one byte with its number, and no byte of any other character is below
128.  So a small byte of a text is always a character of its own, which is what lets a proof
about bytes be told as one about characters.
-/
import BlogGateway.Bytes
import Mathlib.Data.List.Basic

namespace BlogGateway.Bytes

theorem ofText_eq_flatMap (text : String) :
    ofText text = text.toList.flatMap String.utf8EncodeChar := by
  unfold ofText
  rw [String.toUTF8_eq_toByteArray, ← String.utf8Encode_toList, List.utf8Encode]
  simp

theorem utf8EncodeChar_of_ascii {c : Char} (h : c.toNat < 128) :
    String.utf8EncodeChar c = [c.toNat.toUInt8] := by
  have hle : c.val.toNat ≤ 0x7f := Nat.le_of_lt_succ h
  simp only [String.utf8EncodeChar, if_pos hle]
  rfl

/-- A byte below 128 is a whole character. -/
theorem toNat_of_mem_utf8EncodeChar {c : Char} {b : UInt8}
    (hmem : b ∈ String.utf8EncodeChar c) (hb : b.toNat < 128) : c.toNat = b.toNat := by
  by_cases h : c.toNat < 128
  · rw [utf8EncodeChar_of_ascii h, List.mem_singleton] at hmem
    subst hmem
    simp
    omega
  · exfalso
    -- Every byte of a longer form carries one of the marks `0x80`, `0xc0`, `0xe0`, `0xf0`.
    have hnot : ¬ c.val.toNat ≤ 0x7f := fun hc => h (Nat.lt_succ_of_le hc)
    simp only [String.utf8EncodeChar, if_neg hnot] at hmem
    split at hmem
    · simp only [List.mem_cons, List.not_mem_nil, or_false] at hmem
      rcases hmem with rfl | rfl <;> simp only [UInt8.toNat_ofNat'] at hb <;> omega
    · split at hmem
      · simp only [List.mem_cons, List.not_mem_nil, or_false] at hmem
        rcases hmem with rfl | rfl | rfl <;> simp only [UInt8.toNat_ofNat'] at hb <;> omega
      · simp only [List.mem_cons, List.not_mem_nil, or_false] at hmem
        rcases hmem with rfl | rfl | rfl | rfl <;>
          simp only [UInt8.toNat_ofNat'] at hb <;> omega

/-- The bytes of a character are known where they begin. -/
theorem utf8EncodeChar_append_inj {c c' : Char} {s s' : Bytes}
    (same : String.utf8EncodeChar c ++ s = String.utf8EncodeChar c' ++ s') : c = c' ∧ s = s' := by
  have decoded (c : Char) (s : Bytes) :
      (String.utf8EncodeChar c ++ s).toByteArray.utf8DecodeChar? 0 = some c := by
    rw [List.toByteArray_append]
    exact ByteArray.utf8DecodeChar?_utf8EncodeChar_append
  have own := decoded c s
  rw [same, decoded] at own
  obtain rfl := Option.some.inj own
  exact ⟨rfl, List.append_cancel_left same⟩

/-- The first byte of a character is told from its other bytes. -/
theorem exists_utf8EncodeChar_eq_cons (c : Char) :
    ∃ first more, String.utf8EncodeChar c = first :: more ∧ first.IsUTF8FirstByte ∧
      ∀ b ∈ more, ¬ b.IsUTF8FirstByte := by
  obtain ⟨first, more, split⟩ :=
    List.exists_cons_of_ne_nil (String.utf8EncodeChar_ne_nil (c := c))
  have place (i : Nat) (hi : i < (String.utf8EncodeChar c).length) :
      (String.utf8EncodeChar c)[i].IsUTF8FirstByte ↔ i = 0 :=
    UInt8.isUTF8FirstByte_getElem_utf8EncodeChar
  simp only [split] at place
  refine ⟨first, more, split, (place 0 (by simp)).mpr rfl, fun b hmem first => ?_⟩
  obtain ⟨i, hi, rfl⟩ := List.getElem_of_mem hmem
  exact absurd ((place (i + 1) (by simpa using hi)).mp first) (Nat.succ_ne_zero i)

/-- A small byte of a text is a character of it. -/
theorem exists_char_of_mem_ofText {text : String} {b : UInt8} (hmem : b ∈ ofText text)
    (hb : b.toNat < 128) : ∃ c ∈ text.toList, c.toNat = b.toNat := by
  rw [ofText_eq_flatMap, List.mem_flatMap] at hmem
  obtain ⟨c, hc, hbc⟩ := hmem
  exact ⟨c, hc, toNat_of_mem_utf8EncodeChar hbc hb⟩

/-- A small byte at the end of a text is its last character. -/
theorem getLast?_of_getLast?_ofText {text : String} {b : UInt8}
    (hlast : (ofText text).getLast? = some b) (hb : b.toNat < 128) :
    ∃ c, text.toList.getLast? = some c ∧ c.toNat = b.toNat := by
  rw [ofText_eq_flatMap] at hlast
  rcases List.eq_nil_or_concat text.toList with hnil | ⟨front, c, hsplit⟩
  · rw [hnil] at hlast
    simp at hlast
  · rw [hsplit, List.concat_eq_append, List.flatMap_append, List.flatMap_singleton] at hlast
    refine ⟨c, by rw [hsplit]; simp, toNat_of_mem_utf8EncodeChar ?_ hb⟩
    rw [List.getLast?_append_of_ne_nil _ String.utf8EncodeChar_ne_nil] at hlast
    exact List.mem_of_getLast? hlast

theorem ofText_empty : ofText "" = [] := rfl

theorem ofText_append (first second : String) :
    ofText (first ++ second) = ofText first ++ ofText second := by
  rw [ofText_eq_flatMap, ofText_eq_flatMap, ofText_eq_flatMap, String.toList_append,
    List.flatMap_append]

theorem ofText_eq_nil_iff {text : String} : ofText text = [] ↔ text = "" := by
  constructor
  · intro h
    exact ofText_injective (h.trans ofText_empty.symm)
  · intro h
    obtain rfl := h
    rfl

/-- Bytes below 128 are the bytes of the text that they spell. -/
theorem ofText_ofAscii {bytes : Bytes} (hascii : ∀ b ∈ bytes, b.toNat < 128) :
    ofText (String.ofList (bytes.map fun b => Char.ofNat b.toNat)) = bytes := by
  rw [ofText_eq_flatMap, String.toList_ofList]
  induction bytes with
  | nil => rfl
  | cons b rest ih =>
      have hb : b.toNat < 128 := hascii b (by simp)
      have hnat : (Char.ofNat b.toNat).toNat = b.toNat := by
        have hvalid : Nat.isValidChar b.toNat := Or.inl (by omega)
        rw [Char.ofNat, dif_pos hvalid]
        rfl
      rw [List.map_cons, List.flatMap_cons, ih fun b' hb' => hascii b' (by simp [hb']),
        utf8EncodeChar_of_ascii (by omega), hnat]
      simp

/-! ### Bytes that are a text -/

/-- The bytes are those of some text. -/
def IsText (bytes : Bytes) : Prop := ∃ text, ofText text = bytes

theorem isText_ofText (text : String) : IsText (ofText text) := ⟨text, rfl⟩

theorem isText_of_ascii {bytes : Bytes} (ascii : ∀ b ∈ bytes, b.toNat < 128) : IsText bytes :=
  ⟨_, ofText_ofAscii ascii⟩

/-- Texts behind one another are a text. -/
theorem IsText.append {a b : Bytes} (ha : IsText a) (hb : IsText b) : IsText (a ++ b) := by
  obtain ⟨s, rfl⟩ := ha
  obtain ⟨t, rfl⟩ := hb
  exact ⟨s ++ t, ofText_append s t⟩

theorem IsText.cons {b : UInt8} {bytes : Bytes} (ascii : b.toNat < 128) (h : IsText bytes) :
    IsText (b :: bytes) := by
  have first : IsText [b] := isText_of_ascii fun b' hmem => by
    rwa [List.mem_singleton.mp hmem]
  exact first.append h

theorem isText_utf8EncodeChar (char : Char) : IsText (String.utf8EncodeChar char) := by
  refine ⟨String.singleton char, ?_⟩
  rw [ofText_eq_flatMap, String.toList_singleton, List.flatMap_singleton]

/-- Bytes are a text when they are those of some characters. -/
theorem isText_iff {bytes : Bytes} :
    IsText bytes ↔ ∃ chars : List Char, chars.flatMap String.utf8EncodeChar = bytes := by
  constructor
  · rintro ⟨text, rfl⟩
    exact ⟨text.toList, (ofText_eq_flatMap text).symm⟩
  · rintro ⟨chars, rfl⟩
    exact ⟨String.ofList chars, by rw [ofText_eq_flatMap, String.toList_ofList]⟩

/-- A text that is not empty begins with a character. -/
theorem IsText.uncons {bytes : Bytes} (h : IsText bytes) (some : bytes ≠ []) :
    ∃ c rest, bytes = String.utf8EncodeChar c ++ rest ∧ IsText rest := by
  obtain ⟨chars, rfl⟩ := isText_iff.mp h
  cases chars with
  | nil => exact absurd rfl some
  | cons c chars => exact ⟨c, _, rfl, isText_iff.mpr ⟨chars, rfl⟩⟩

/-- A text may be cut in front of an ASCII byte. -/
theorem IsText.split {front back : Bytes} (h : IsText (front ++ back))
    (ascii : ∀ b ∈ back.head?, b.toNat < 128) : IsText front ∧ IsText back := by
  obtain ⟨chars, same⟩ := isText_iff.mp h
  induction chars generalizing front with
  | nil =>
      obtain ⟨rfl, rfl⟩ := List.append_eq_nil_iff.mp same.symm
      exact ⟨isText_ofText "", isText_ofText ""⟩
  | cons c chars ih =>
      rw [List.flatMap_cons] at same
      rcases List.append_eq_append_iff.mp same with ⟨others, rfl, same'⟩ | ⟨left, split, rfl⟩
      · obtain ⟨hothers, hback⟩ := ih (isText_iff.mpr ⟨chars, same'⟩) same'
        exact ⟨(isText_utf8EncodeChar c).append hothers, hback⟩
      · cases left with
        | nil =>
            rw [List.append_nil] at split
            rw [← split]
            exact ⟨isText_utf8EncodeChar c, isText_iff.mpr ⟨chars, rfl⟩⟩
        | cons b left =>
            -- the cut would be inside the character, whose bytes are not ASCII then
            have hb : b.toNat < 128 := ascii b rfl
            have hmem : b ∈ String.utf8EncodeChar c := by simp [split]
            have small : c.toNat < 128 := by rw [toNat_of_mem_utf8EncodeChar hmem hb]; exact hb
            have single := utf8EncodeChar_of_ascii small
            have front_nil : front = [] := by
              have := congrArg List.length (single.symm.trans split)
              simp only [List.length_append, List.length_cons, List.length_nil] at this
              exact List.length_eq_zero_iff.mp (by omega)
            subst front_nil
            exact ⟨isText_ofText "", h⟩

/-- An ASCII byte may be taken off the front of a text. -/
theorem IsText.tail {b : UInt8} {bytes : Bytes} (h : IsText (b :: bytes)) (ascii : b.toNat < 128) :
    IsText bytes := by
  obtain ⟨c, rest, split, hrest⟩ := h.uncons (List.cons_ne_nil b bytes)
  have hmem : b ∈ String.utf8EncodeChar c := by
    obtain ⟨b', more, hc⟩ := List.exists_cons_of_ne_nil (String.utf8EncodeChar_ne_nil (c := c))
    rw [hc, List.cons_append] at split
    rw [hc, (List.cons.inj split).1]
    exact List.mem_cons_self ..
  have small : c.toNat < 128 := by rw [toNat_of_mem_utf8EncodeChar hmem ascii]; exact ascii
  rw [utf8EncodeChar_of_ascii small] at split
  rwa [(List.cons.inj split).2]

theorem IsText.of_append_ascii (front : Bytes) {back : Bytes} (h : IsText (front ++ back))
    (ascii : ∀ b ∈ front, b.toNat < 128) : IsText back := by
  induction front with
  | nil => exact h
  | cons b front ih =>
      exact ih (h.tail (ascii b (List.mem_cons_self ..)))
        fun b' hmem => ascii b' (List.mem_cons_of_mem b hmem)

end BlogGateway.Bytes
