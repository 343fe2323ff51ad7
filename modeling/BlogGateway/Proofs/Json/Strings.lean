/-
Strings are read as what they spell.

A character may be spelled in several ways: as itself, with an escape of one letter, with its
number, or with the two numbers of a surrogate pair.  `Spells` says which bytes between the
quotes spell a text, whatever ways are taken.  A string is read as the text that it spells,
and a text is written in one of the ways that spell it, so reading undoes writing.
-/
import BlogGateway.Proofs.Bytes.Hex
import BlogGateway.Proofs.Bytes.Utf8
import BlogGateway.Proofs.Json.Reading

namespace BlogGateway.Json

open Ascii

/-- The escapes of one letter, with the characters that they stand for. -/
def escapes : List (UInt8 × Char) := [
  (quote, '"'), (backslash, '\\'), (slash, '/'), (lowerB, '\x08'), (lowerF, '\x0C'),
  (lowerN, '\n'), (lowerR, '\r'), (lowerT, '\t')]

/-- The bytes spell the character inside a string. -/
inductive SpellsChar : Char → Bytes → Prop
  | plain {char : Char} (printable : 0x20 ≤ char.toNat) (ne_quote : char ≠ '"')
      (ne_backslash : char ≠ '\\') : SpellsChar char (String.utf8EncodeChar char)
  | escape {letter : UInt8} {char : Char} (known : (letter, char) ∈ escapes) :
      SpellsChar char [backslash, letter]
  | unit {a b c d : UInt8} {code : Nat} (hex : fourDigits? a b c d = some code)
      (leads : isLeading code = false) (trails : isTrailing code = false) :
      SpellsChar (Char.ofNat code) [backslash, lowerU, a, b, c, d]
  | pair {a b c d a' b' c' d' : UInt8} {high low : Nat} (hex : fourDigits? a b c d = some high)
      (hex' : fourDigits? a' b' c' d' = some low) (leads : isLeading high)
      (trails : isTrailing low) :
      SpellsChar (Char.ofNat ((high - 0xD800) * 0x400 + (low - 0xDC00) + 0x10000))
        [backslash, lowerU, a, b, c, d, backslash, lowerU, a', b', c', d']

/-- The bytes spell the characters inside a string. -/
inductive SpellsChars : List Char → Bytes → Prop
  | nil : SpellsChars [] []
  | cons {char : Char} {chars : List Char} {first s : Bytes} (spells : SpellsChar char first)
      (rest : SpellsChars chars s) : SpellsChars (char :: chars) (first ++ s)

/-- The bytes spell the text inside a string. -/
def Spells (text : String) (content : Bytes) : Prop := SpellsChars text.toList content

variable {char : Char} {text : String} {content done s rest : Bytes}

/-! ### Characters that stand for themselves -/

/-- A byte that stands for itself inside a string. -/
def Plain (b : UInt8) : Prop := 0x20 ≤ b ∧ b ≠ quote ∧ b ≠ backslash

/-- The bytes of a character that stands for itself do so as well. -/
theorem plain_of_mem_utf8EncodeChar (printable : 0x20 ≤ char.toNat) (ne_quote : char ≠ '"')
    (ne_backslash : char ≠ '\\') : ∀ b ∈ String.utf8EncodeChar char, Plain b := by
  intro b hmem
  have small (hb : b.toNat < 128) : char.toNat = b.toNat :=
    Bytes.toNat_of_mem_utf8EncodeChar hmem hb
  have other (c : Char) (hc : c.toNat < 128) (ne : char ≠ c) : b ≠ c.toNat.toUInt8 := by
    intro same
    have number : b.toNat = c.toNat := by
      rw [same, Nat.toUInt8, UInt8.toNat_ofNat']
      omega
    exact ne (Char.toNat_inj.mp ((small (by omega)).trans number))
  refine ⟨?_, other '"' (by decide) ne_quote, other '\\' (by decide) ne_backslash⟩
  rw [UInt8.le_iff_toNat_le]
  by_cases hb : b.toNat < 128
  · rw [← small hb]
    exact printable
  · simp
    omega

theorem readContent_plain {bytes : Bytes} (plain : ∀ b ∈ bytes, Plain b) :
    readContent done (bytes ++ s) = readContent (bytes.reverse ++ done) s := by
  induction bytes generalizing done with
  | nil => rfl
  | cons b bytes ih =>
      obtain ⟨printable, ne_quote, ne_backslash⟩ := plain b (List.mem_cons_self ..)
      have first : readContent done (b :: (bytes ++ s)) = readContent (b :: done) (bytes ++ s) := by
        rw [readContent.eq_def]
        simp only [ne_quote, ne_backslash, UInt8.not_lt.mpr printable, ↓reduceIte]
      rw [List.cons_append, first, ih fun b' hmem => plain b' (List.mem_cons_of_mem b hmem)]
      simp

/-! ### Reading what is spelled -/

/-- An escape of one letter stands for the byte of its character. -/
theorem shortEscape?_of_mem {letter : UInt8} (known : (letter, char) ∈ escapes) :
    letter ≠ lowerU ∧ ∃ byte, shortEscape? letter = some byte ∧
      String.utf8EncodeChar char = [byte] := by
  have all : ∀ escape ∈ escapes, escape.1 ≠ lowerU ∧
      (shortEscape? escape.1).map ([·]) = some (String.utf8EncodeChar escape.2) := by decide
  obtain ⟨ne, stands⟩ := all _ known
  obtain ⟨byte, short, same⟩ := Option.map_eq_some_iff.mp stands
  exact ⟨ne, byte, short, same.symm⟩

/-- A spelling is read as the bytes of its character. -/
theorem readContent_char {first : Bytes} (spells : SpellsChar char first) :
    readContent done (first ++ s)
      = readContent ((String.utf8EncodeChar char).reverse ++ done) s := by
  have ne_quote : backslash ≠ quote := by decide
  cases spells with
  | plain printable ne_quote ne_backslash =>
      exact readContent_plain (plain_of_mem_utf8EncodeChar printable ne_quote ne_backslash)
  | escape known =>
      obtain ⟨ne, byte, short, same⟩ := shortEscape?_of_mem known
      rw [same, List.cons_append, List.singleton_append, readContent.eq_def]
      simp [ne_quote, ne, short]
  | @unit a b c d code hex leads trails =>
      simp only [List.cons_append, List.nil_append]
      rw [readContent.eq_def]
      simp [ne_quote, hex, leads, trails, pushCode]
  | @pair a b c d a' b' c' d' high low hex hex' leads trails =>
      have first : isTrailing high = false := by
        simp only [isLeading, isTrailing, Bool.and_eq_true, decide_eq_true_eq,
          Bool.and_eq_false_iff, decide_eq_false_iff_not] at leads ⊢
        omega
      simp only [List.cons_append, List.nil_append]
      rw [readContent.eq_def]
      simp [ne_quote, hex, hex', leads, trails, first, pushCode]

theorem readContent_chars {chars : List Char} (spells : SpellsChars chars content) :
    readContent done (content ++ quote :: rest)
      = .ok (done.reverse ++ chars.flatMap String.utf8EncodeChar, rest) := by
  induction spells generalizing done with
  | nil =>
      rw [List.flatMap_nil, List.append_nil, List.nil_append, readContent.eq_def]
      exact if_pos rfl
  | cons spells _ ih =>
      rw [List.append_assoc, readContent_char spells, ih]
      simp

/-- A string is read as the text that it spells. -/
theorem readText_of_spells (spells : Spells text content) :
    readText (content ++ quote :: rest) = .ok (text, rest) := by
  unfold readText
  rw [readContent_chars spells, List.reverse_nil, List.nil_append, ← Bytes.ofText_eq_flatMap]
  simp only [bind, Except.bind, Bytes.toText?_ofText]

/-! ### What is spelled is JSON -/

theorem isContent_append (plain : ∀ b ∈ content, Plain b) (h : IsContent s) :
    IsContent (content ++ s) := by
  induction content with
  | nil => exact h
  | cons b content ih =>
      obtain ⟨printable, ne_quote, ne_backslash⟩ := plain b (List.mem_cons_self ..)
      exact .plain printable ne_quote ne_backslash
        (ih fun b' hmem => plain b' (List.mem_cons_of_mem b hmem))

theorem isSome_of_fourDigits? {a b c d : UInt8} {code : Nat}
    (hex : fourDigits? a b c d = some code) : ∀ digit ∈ [a, b, c, d], (hexValue? digit).isSome := by
  unfold fourDigits? at hex
  simp only [Option.bind_eq_bind, Option.bind_eq_some_iff] at hex
  obtain ⟨_, ha, _, hb, _, hc, _, hd, -⟩ := hex
  simp [ha, hb, hc, hd]

theorem isContent_of_spellsChars {chars : List Char} (spells : SpellsChars chars content) :
    IsContent content := by
  induction spells with
  | nil => exact .nil
  | cons first _ ih =>
      cases first with
      | plain printable ne_quote ne_backslash =>
          exact isContent_append
            (plain_of_mem_utf8EncodeChar printable ne_quote ne_backslash) ih
      | escape known =>
          simp only [escapes, List.mem_cons, List.not_mem_nil, or_false, Prod.mk.injEq] at known
          refine .escape ?_ ih
          rcases known with h | h | h | h | h | h | h | h <;> simp [h.1]
      | unit hex => exact .unit (isSome_of_fourDigits? hex) ih
      | pair hex hex' =>
          exact .unit (isSome_of_fourDigits? hex) (.unit (isSome_of_fourDigits? hex') ih)

/-- The bytes are a string that spells the text. -/
inductive SpellsString (text : String) : Bytes → Prop
  | quoted {content : Bytes} (spells : Spells text content) : SpellsString text (quoted content)

/-- A string is read as what it spells, whatever it is wanted for. -/
theorem SpellsString.reads {token : Bytes} (h : SpellsString text token) (wanted : String) :
    Reads (readString wanted) token text := by
  cases h with
  | quoted spells =>
      refine reads_atValue (.string (isContent_of_spellsChars spells)) fun rest _ => ?_
      rw [List.append_assoc, List.singleton_append]
      simp only [↓reduceIte, readText_of_spells spells, Except.mapError_ok]

/-! ### Writing -/

theorem escapeByte_of_plain {b : UInt8} (plain : Plain b) : escapeByte b = [b] := by
  obtain ⟨printable, ne_quote, ne_backslash⟩ := plain
  have large (small : UInt8) (h : small < 0x20) : b ≠ small := by
    intro same
    rw [same] at printable
    exact absurd h (UInt8.not_lt.mpr printable)
  unfold escapeByte
  simp [ne_quote, ne_backslash, large 0x08 (by decide), large 0x0C (by decide),
    large 0x0A (by decide), large 0x0D (by decide), large 0x09 (by decide),
    UInt8.not_lt.mpr printable]

/-- A control character is written with an escape of one letter or with its number. -/
theorem spellsChar_control (n : Fin 0x20) :
    SpellsChar (Char.ofNat n) ((String.utf8EncodeChar (Char.ofNat n)).flatMap escapeByte) := by
  have all : ∀ n : Fin 0x20,
      (∃ escape ∈ escapes, Char.ofNat n = escape.2 ∧
        (String.utf8EncodeChar (Char.ofNat n)).flatMap escapeByte = [backslash, escape.1]) ∨
      (String.utf8EncodeChar (Char.ofNat n)).flatMap escapeByte
          = [backslash, lowerU, 0x30, 0x30, hexDigit (.ofNat (n / 16)),
            hexDigit (.ofNat (n % 16))] ∧
        fourDigits? 0x30 0x30 (hexDigit (.ofNat (n / 16))) (hexDigit (.ofNat (n % 16)))
          = some n.val := by
    decide
  rcases all n with ⟨escape, known, same, written⟩ | ⟨written, hex⟩
  · rw [written, same]
    exact .escape known
  · rw [written]
    have small := n.isLt
    refine .unit hex ?_ ?_ <;> simp [isLeading, isTrailing] <;> omega

/-- The way in which a character is written spells it. -/
theorem spellsChar_write (char : Char) :
    SpellsChar char ((String.utf8EncodeChar char).flatMap escapeByte) := by
  by_cases small : char.toNat < 0x20
  · have control := spellsChar_control ⟨char.toNat, small⟩
    rwa [Char.ofNat_toNat] at control
  · have printable : 0x20 ≤ char.toNat := Nat.le_of_not_lt small
    by_cases is_quote : char = '"'
    · have known : (quote, char) ∈ escapes := by rw [is_quote]; decide
      rw [is_quote] at known ⊢
      exact .escape known
    by_cases is_backslash : char = '\\'
    · have known : (backslash, char) ∈ escapes := by rw [is_backslash]; decide
      rw [is_backslash] at known ⊢
      exact .escape known
    have plain := plain_of_mem_utf8EncodeChar printable is_quote is_backslash
    have same : (String.utf8EncodeChar char).flatMap escapeByte = String.utf8EncodeChar char := by
      rw [List.flatMap_congr fun b hmem => escapeByte_of_plain (plain b hmem)]
      exact List.flatMap_singleton' _
    rw [same]
    exact .plain printable is_quote is_backslash

theorem spellsChars_write (chars : List Char) :
    SpellsChars chars ((chars.flatMap String.utf8EncodeChar).flatMap escapeByte) := by
  induction chars with
  | nil => exact .nil
  | cons char chars ih =>
      rw [List.flatMap_cons, List.flatMap_append]
      exact .cons (spellsChar_write char) ih

/-- A text is written as a string that spells it. -/
theorem spells_write (text : String) : Spells text ((Bytes.ofText text).flatMap escapeByte) := by
  rw [Bytes.ofText_eq_flatMap]
  exact spellsChars_write text.toList

theorem spellsString_write (text : String) : SpellsString text (writeText text) :=
  .quoted (spells_write text)

/-- A text that is written is read back. -/
theorem reads_writeText (text wanted : String) :
    Reads (readString wanted) (writeText text) text :=
  (spellsString_write text).reads wanted

end BlogGateway.Json
