/-
What is read from a string is what the string spells.

`Strings` reads every spelling of a text as that text.  Here a reader has come to the closing
quote of a string, and what stands before the quote is one of those spellings, since a reader
knows no others.

A reader goes by bytes, and the text is known only at the quote, so it is the characters of what
has been read that carry the induction.  Each of them came from an escape, which gives a character
at once, or from bytes that stand for themselves; an escape in the middle of such bytes would
begin another character.
-/
import BlogGateway.Proofs.Json.Crossed
import BlogGateway.Proofs.Json.Strings

namespace BlogGateway.Json

open Ascii

variable {content done s rest : Bytes} {text : String}

/-! ### One step inside a string -/

/-- A reader that is given `s` inside a string takes an escape and goes on. -/
def TakesEscape (done s content rest : Bytes) : Prop :=
  ∃ char first s', s = first ++ s' ∧ SpellsChar char first ∧
    readContent ((String.utf8EncodeChar char).reverse ++ done) s' = .ok (content, rest)

theorem mem_escapes_of_shortEscape? {letter byte : UInt8} (h : shortEscape? letter = some byte) :
    ∃ char, (letter, char) ∈ escapes ∧ String.utf8EncodeChar char = [byte] := by
  simp only [shortEscape?] at h
  split at h
  · rename_i itself
    obtain rfl := Option.some.inj h
    simp only [Bool.or_eq_true, decide_eq_true_eq] at itself
    rcases itself with (rfl | rfl) | rfl
    · exact ⟨'"', by decide, by decide⟩
    · exact ⟨'\\', by decide, by decide⟩
    · exact ⟨'/', by decide, by decide⟩
  split at h
  · subst_vars
    exact ⟨'\x08', by decide, by rw [← Option.some.inj h]; decide⟩
  split at h
  · subst_vars
    exact ⟨'\x0C', by decide, by rw [← Option.some.inj h]; decide⟩
  split at h
  · subst_vars
    exact ⟨'\n', by decide, by rw [← Option.some.inj h]; decide⟩
  split at h
  · subst_vars
    exact ⟨'\r', by decide, by rw [← Option.some.inj h]; decide⟩
  split at h
  · subst_vars
    exact ⟨'\t', by decide, by rw [← Option.some.inj h]; decide⟩
  · cases h

/-- A character that is given by its number is spelled by one unit or by a pair. -/
theorem takesEscape_number (h : readContent done (backslash :: lowerU :: s) = .ok (content, rest)) :
    TakesEscape done (backslash :: lowerU :: s) content rest := by
  rw [readContent.eq_def] at h
  simp only [show backslash ≠ quote by decide, ↓reduceIte] at h
  split at h
  · rename_i a b c d s
    split at h
    · cases h
    rename_i unit hex
    split at h
    · cases h
    rename_i trails
    split at h
    · -- the first of a pair, so the second stands behind it
      rename_i leads
      split at h
      · cases h
      · split at h <;> cases h
      rename_i mark letter s
      split at h
      · rename_i marked
        simp only [Bool.and_eq_true, decide_eq_true_eq] at marked
        obtain ⟨rfl, rfl⟩ := marked
        split at h
        · rename_i a' b' c' d' s
          split at h
          · cases h
          rename_i low hex'
          split at h
          · rename_i trails'
            exact ⟨_, _, s, rfl, .pair hex hex' leads trails', h⟩
          · cases h
        · cases h
      · cases h
    · rename_i leads
      exact ⟨_, _, s, rfl, .unit hex (by simpa using leads) (by simpa using trails), h⟩
  · cases h

/-- An escape is a spelling of one character. -/
theorem takesEscape (h : readContent done (backslash :: s) = .ok (content, rest)) :
    TakesEscape done (backslash :: s) content rest := by
  cases s with
  | nil => cases h
  | cons letter s =>
      by_cases numbered : letter = lowerU
      · subst numbered
        exact takesEscape_number h
      rw [readContent.eq_def] at h
      simp only [show backslash ≠ quote by decide, numbered, ↓reduceIte] at h
      split at h
      · rename_i byte short
        obtain ⟨char, known, same⟩ := mem_escapes_of_shortEscape? short
        refine ⟨char, [backslash, letter], s, rfl, .escape known, ?_⟩
        rw [same]
        exact h
      · cases h

/-- A reader inside a string is at the closing quote, at an escape, or at a byte that stands for
itself. -/
theorem readContent_cases (h : readContent done s = .ok (content, rest)) :
    (s = quote :: rest ∧ content = done.reverse) ∨ TakesEscape done s content rest ∨
      ∃ b s', s = b :: s' ∧ Plain b ∧ readContent (b :: done) s' = .ok (content, rest) := by
  cases s with
  | nil => cases h
  | cons b s =>
      by_cases is_quote : b = quote
      · subst is_quote
        left
        have ended : readContent done (quote :: s) = .ok (done.reverse, s) := by
          rw [readContent.eq_def]
          exact if_pos rfl
        obtain ⟨rfl, rfl⟩ := Prod.mk.inj (Except.ok.inj (ended.symm.trans h))
        exact ⟨rfl, rfl⟩
      right
      by_cases is_backslash : b = backslash
      · subst is_backslash
        exact .inl (takesEscape h)
      right
      rw [readContent.eq_def] at h
      simp only [is_quote, is_backslash, ↓reduceIte] at h
      split at h
      · cases h
      · rename_i printable
        exact ⟨b, s, rfl, ⟨UInt8.not_lt.mp printable, is_quote, is_backslash⟩, h⟩

theorem SpellsChar.ne_nil {char : Char} {first : Bytes} (spells : SpellsChar char first) :
    first ≠ [] := by
  cases spells with
  | plain => exact String.utf8EncodeChar_ne_nil
  | escape | unit | pair => exact List.cons_ne_nil _ _

/-- What has been read stays in front of what is read later. -/
theorem exists_content (h : readContent done s = .ok (content, rest)) :
    ∃ more, content = done.reverse ++ more := by
  induction hlength : s.length using Nat.strongRecOn generalizing s done with
  | ind length ih =>
      rcases readContent_cases h with ⟨-, rfl⟩ | ⟨char, first, s, rfl, spells, h⟩ |
          ⟨b, s, rfl, -, h⟩
      · exact ⟨[], (List.append_nil _).symm⟩
      · have shorter : s.length < length := by
          have := List.length_pos_iff.mpr spells.ne_nil
          rw [← hlength, List.length_append]
          omega
        obtain ⟨more, rfl⟩ := ih s.length shorter h rfl
        exact ⟨String.utf8EncodeChar char ++ more, by simp⟩
      · obtain ⟨more, rfl⟩ := ih s.length (by simp [← hlength]) h rfl
        exact ⟨b :: more, by simp⟩

/-! ### One character -/

/-- An escape adds a character. -/
theorem exists_char_content {char : Char}
    (h : readContent ((String.utf8EncodeChar char).reverse ++ done) s
      = .ok (done.reverse ++ content, rest)) :
    ∃ more, content = String.utf8EncodeChar char ++ more := by
  obtain ⟨more, same⟩ := exists_content h
  have split : done.reverse ++ content = done.reverse ++ (String.utf8EncodeChar char ++ more) := by
    simpa using same
  exact ⟨more, List.append_cancel_left split⟩

/-- A byte that stands for itself is added as it is. -/
theorem exists_byte_content {b : UInt8}
    (h : readContent (b :: done) s = .ok (done.reverse ++ content, rest)) :
    ∃ more, content = b :: more := by
  obtain ⟨more, same⟩ := exists_content h
  have split : done.reverse ++ content = done.reverse ++ (b :: more) := by
    simpa using same
  exact ⟨more, List.append_cancel_left split⟩

/-- The bytes of a character behind its first stand for themselves, since no escape gives them. -/
theorem readContent_others {others : Bytes} (inside : ∀ b ∈ others, ¬ b.IsUTF8FirstByte)
    (h : readContent done s = .ok (done.reverse ++ (others ++ content), rest)) :
    ∃ s', s = others ++ s' ∧
      readContent (others.reverse ++ done) s'
        = .ok (done.reverse ++ (others ++ content), rest) := by
  induction others generalizing done s with
  | nil => exact ⟨s, rfl, h⟩
  | cons b others ih =>
      rcases readContent_cases h with ⟨-, ended⟩ | ⟨char, first, s, rfl, -, h⟩ |
          ⟨b', s, rfl, -, h⟩
      · simp at ended
      · obtain ⟨more, same⟩ := exists_char_content h
        obtain ⟨begins, behind, split, first, -⟩ := Bytes.exists_utf8EncodeChar_eq_cons char
        rw [split] at same
        obtain ⟨rfl, -⟩ := List.cons.inj same
        exact absurd first (inside b (List.mem_cons_self ..))
      · obtain ⟨more, same⟩ := exists_byte_content h
        obtain ⟨rfl, -⟩ := List.cons.inj same
        have shifted : done.reverse ++ (b :: others ++ content)
            = (b :: done).reverse ++ (others ++ content) := by simp
        rw [shifted] at h ⊢
        obtain ⟨s', rfl, taken⟩ := ih (fun b hmem => inside b (List.mem_cons_of_mem _ hmem)) h
        exact ⟨s', rfl, by simpa using taken⟩

/-- A character whose first byte stands for itself does so as well. -/
theorem spellsChar_of_plain {char : Char} {b : UInt8} {others : Bytes} (plain : Plain b)
    (split : String.utf8EncodeChar char = b :: others) :
    SpellsChar char (String.utf8EncodeChar char) := by
  obtain ⟨printable, ne_quote, ne_backslash⟩ := plain
  refine .plain ?_ ?_ ?_
  · by_cases ascii : char.toNat < 128
    · rw [Bytes.utf8EncodeChar_of_ascii ascii] at split
      obtain ⟨rfl, -⟩ := List.cons.inj split
      rw [UInt8.le_iff_toNat_le, Nat.toUInt8, UInt8.toNat_ofNat'] at printable
      exact Nat.le_trans printable (Nat.mod_le ..)
    · omega
  · rintro rfl
    exact ne_quote (List.cons.inj split).1.symm
  · rintro rfl
    exact ne_backslash (List.cons.inj split).1.symm

/-! ### A whole string -/

/-- What has been read up to the closing quote is spelled before it, character by character. -/
theorem spells_of_readContent {chars : List Char}
    (h : readContent done s = .ok (done.reverse ++ chars.flatMap String.utf8EncodeChar, rest)) :
    ∃ spelled, s = spelled ++ quote :: rest ∧ SpellsChars chars spelled := by
  induction chars generalizing done s with
  | nil =>
      rcases readContent_cases h with ⟨rfl, -⟩ | ⟨char, first, s, rfl, -, h⟩ | ⟨b, s, rfl, -, h⟩
      · exact ⟨[], rfl, .nil⟩
      · obtain ⟨more, same⟩ := exists_char_content h
        exact absurd (List.append_eq_nil_iff.mp same.symm).1 String.utf8EncodeChar_ne_nil
      · obtain ⟨more, same⟩ := exists_byte_content h
        cases same
  | cons c chars ih =>
      rw [List.flatMap_cons] at h
      obtain ⟨first, others, split, -, inside⟩ := Bytes.exists_utf8EncodeChar_eq_cons c
      have goesOn {s : Bytes} (h : readContent ((String.utf8EncodeChar c).reverse ++ done) s
          = .ok (done.reverse ++ (String.utf8EncodeChar c ++
              chars.flatMap String.utf8EncodeChar), rest)) :
          ∃ spelled, s = spelled ++ quote :: rest ∧ SpellsChars chars spelled := by
        have pushed : readContent ((String.utf8EncodeChar c).reverse ++ done) s
            = .ok (((String.utf8EncodeChar c).reverse ++ done).reverse
                ++ chars.flatMap String.utf8EncodeChar, rest) := by
          simpa using h
        exact ih pushed
      rcases readContent_cases h with ⟨-, ended⟩ | ⟨char, first, s, rfl, spells, h⟩ |
          ⟨b, s, rfl, plain, h⟩
      · simp [split] at ended
      · obtain ⟨more, same⟩ := exists_char_content h
        obtain ⟨rfl, -⟩ := Bytes.utf8EncodeChar_append_inj same
        obtain ⟨spelled, rfl, others⟩ := goesOn h
        exact ⟨first ++ spelled, by simp, .cons spells others⟩
      · obtain ⟨more, same⟩ := exists_byte_content h
        rw [split] at same
        obtain ⟨rfl, -⟩ := List.cons.inj same
        have shifted : done.reverse ++ (String.utf8EncodeChar c ++
              chars.flatMap String.utf8EncodeChar)
            = (first :: done).reverse ++ (others ++ chars.flatMap String.utf8EncodeChar) := by
          simp [split]
        rw [shifted] at h
        obtain ⟨s, rfl, taken⟩ := readContent_others inside h
        obtain ⟨spelled, rfl, rest⟩ := goesOn (by rw [shifted, split]; simpa using taken)
        exact ⟨String.utf8EncodeChar c ++ spelled, by simp [split],
          .cons (spellsChar_of_plain plain split) rest⟩

/-- What has been read up to the closing quote is spelled before it. -/
theorem spells_of_readText (h : readText s = .ok (text, rest)) :
    ∃ spelled, s = spelled ++ quote :: rest ∧ Spells text spelled := by
  obtain ⟨⟨content, rest'⟩, read, h⟩ := Except.bind_eq_ok_iff.mp h
  dsimp only at h
  split at h
  · rename_i text' made
    obtain ⟨rfl, rfl⟩ := Prod.mk.inj (Except.ok.inj h)
    rw [← Bytes.ofText_of_toText? made, Bytes.ofText_eq_flatMap] at read
    exact spells_of_readContent read
  · cases h

end BlogGateway.Json
