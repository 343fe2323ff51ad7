/-
Written containers are JSON, and what is JSON is a text.

Containers are written without white space, their entries with commas between them; that is
one of the ways in which a grammar may list them.  The bytes of strings, and of containers
whose entries are texts, are those of a text: a value that arrives as bytes can be kept as the
text that it is.
-/
import BlogGateway.Proofs.Json.Records

namespace BlogGateway.Json

open Ascii

variable {text : String} {content s : Bytes} {tokens : List Bytes}

/-! ### Commas -/

theorem flatten_intersperse (token : Bytes) (tokens : List Bytes) :
    ((token :: tokens).intersperse [comma]).flatten
      = token ++ tokens.flatMap (comma :: ·) := by
  induction tokens generalizing token with
  | nil => simp
  | cons next tokens ih =>
      rw [List.intersperse_cons_cons, List.flatten_cons, List.flatten_cons, ih]
      rfl

/-- Entries that are written with commas between them are listed. -/
theorem listed_intersperse (tokens : List Bytes) :
    Listed tokens (tokens.intersperse [comma]).flatten := by
  induction tokens with
  | nil => exact .nil blank_nil
  | cons token tokens ih =>
      cases tokens with
      | nil =>
          have one : Listed [token] ([] ++ token ++ []) := .one blank_nil blank_nil
          rwa [List.nil_append] at one
      | cons next tokens =>
          have more : Listed (token :: next :: tokens) ([] ++ token ++ [] ++ comma :: _) :=
            .more blank_nil blank_nil ih
          rwa [List.nil_append, List.append_nil] at more

/-! ### Texts -/

theorem ascii_of_blank (blank : Blank s) : ∀ b ∈ s, b.toNat < 128 := by
  intro b hmem
  have hb := blank b hmem
  simp only [List.mem_cons, List.not_mem_nil, or_false] at hb
  rcases hb with rfl | rfl | rfl | rfl <;> decide

theorem isText_blank (blank : Blank s) : Bytes.IsText s :=
  Bytes.isText_of_ascii (ascii_of_blank blank)

theorem isText_of_spellsChars {chars : List Char} (spells : SpellsChars chars content) :
    Bytes.IsText content := by
  have escaped {bytes : Bytes} (h : Bytes.IsText bytes) : Bytes.IsText (backslash :: bytes) :=
    .cons (by decide) h
  have unit {a b c d : UInt8} {code : Nat} (hex : fourDigits? a b c d = some code) :
      Bytes.IsText [lowerU, a, b, c, d] := by
    refine .cons (by decide) (Bytes.isText_of_ascii fun digit hmem => ?_)
    exact hexValue?_lt (isSome_of_fourDigits? hex digit hmem)
  induction spells with
  | nil => exact ⟨"", rfl⟩
  | cons first _ ih =>
      refine .append ?_ ih
      cases first with
      | plain => exact Bytes.isText_utf8EncodeChar _
      | escape known =>
          have ascii : ∀ escape ∈ escapes, escape.1.toNat < 128 := by decide
          exact escaped (.cons (ascii _ known) ⟨"", rfl⟩)
      | unit hex => exact escaped (unit hex)
      | pair hex hex' => exact (escaped (unit hex)).append (escaped (unit hex'))

/-- A string is a text when it spells one. -/
theorem isText_quoted (spells : Spells text content) : Bytes.IsText (quoted content) :=
  .cons (by decide) ((isText_of_spellsChars spells).append ⟨"\"", rfl⟩)

theorem SpellsString.isText {token : Bytes} (h : SpellsString text token) :
    Bytes.IsText token := by
  cases h with
  | quoted spells => exact isText_quoted spells

theorem isText_writeText (text : String) : Bytes.IsText (writeText text) :=
  isText_quoted (spells_write text)

theorem isText_listed (listed : Listed tokens s) (texts : ∀ token ∈ tokens, Bytes.IsText token) :
    Bytes.IsText s := by
  induction listed with
  | nil blank => exact isText_blank blank
  | one blank blank' =>
      exact ((isText_blank blank).append (texts _ (List.mem_cons_self ..))).append
        (isText_blank blank')
  | more blank blank' _ ih =>
      have first := ((isText_blank blank).append (texts _ (List.mem_cons_self ..))).append
        (isText_blank blank')
      exact first.append (.cons (by decide)
        (ih fun token hmem => texts token (List.mem_cons_of_mem _ hmem)))

theorem isText_bracketed (h : Bytes.IsText s) : Bytes.IsText (bracketed s) :=
  .cons (by decide) (h.append ⟨"]", rfl⟩)

theorem SpellsList.isText {raws : List Raw} {token : Bytes} (h : SpellsList raws token) :
    Bytes.IsText token := by
  cases h with
  | bracketed listed =>
      refine isText_bracketed (isText_listed listed fun token hmem => ?_)
      obtain ⟨raw, -, rfl⟩ := List.mem_map.mp hmem
      exact Bytes.isText_ofText raw.text

theorem isText_braced (h : Bytes.IsText s) : Bytes.IsText (braced s) :=
  .cons (by decide) (h.append ⟨"\x7d", rfl⟩)

theorem Member.isText {member : Member} (h : Bytes.IsText member.text.value) :
    Bytes.IsText member.bytes := by
  have tail : Bytes.IsText member.tail :=
    ((isText_blank member.before).append (.cons (by decide) (isText_blank member.after))).append h
  rw [member.bytes_eq]
  exact (isText_quoted member.spells).append tail

/-- A value that is a text can be kept as it is. -/
theorem exists_raw (h : Bytes.IsText s) : ∃ raw : Raw, raw.bytes = s := by
  obtain ⟨text, same⟩ := h
  exact ⟨⟨text⟩, same⟩

end BlogGateway.Json
