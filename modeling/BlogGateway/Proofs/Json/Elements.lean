/-
A text is read as a list just when it is one.

`IsList` says in words of the grammar which texts are lists, and what their elements are.  The
elements are not looked into, only crossed, so a list is read whatever its elements mean, and what
is read are the bytes that stand there.  A text that is no list is not read, since a scan that has
crossed something has crossed a value.
-/
import BlogGateway.Proofs.Json.Taken
import BlogGateway.Proofs.Json.Written

namespace BlogGateway.Json

open Ascii

/-- The text is a list of the tokens, with any white space around it and around each of them. -/
inductive IsList (tokens : List Bytes) : Bytes → Prop
  | text {before s after : Bytes} (listed : Listed tokens s)
      (values : ∀ token ∈ tokens, IsValue token) (blank : Blank before) (blank' : Blank after) :
      IsList tokens (before ++ bracketed s ++ after)

variable {raws : List Raw} {s text : Bytes} {tokens : List Bytes}

/-! ### Elements that have been read -/

/-- A raw value that has been read is a value, with white space before it. -/
theorem takes_raw : Takes readRaw fun raw token => IsValue raw.bytes ∧ raw.bytes = token := by
  intro s raw rest h
  obtain ⟨before, blank, start⟩ := exists_blank s
  have split := (split_of_readRaw h).2
  obtain ⟨left, skipped, h⟩ := Except.bind_eq_ok_iff.mp h
  have same : left = rest := by
    split at h
    · exact (Prod.mk.inj (Except.ok.inj h)).2
    · cases h
  subst same
  obtain ⟨before', token, blank', isValue, crossed⟩ :=
    isValue_of_skipValue (Except.mapError_eq_ok_iff.mp skipped)
  have nothing : skipSpace (before' ++ token ++ left) = token ++ left :=
    skipSpace_token blank' isValue
  rw [← crossed, skipSpace_skipSpace, split] at nothing
  obtain rfl := List.append_cancel_right nothing
  exact ⟨before, raw.bytes, blank, ⟨isValue, rfl⟩, by rw [start, split, List.append_assoc]⟩

/-- A list that has been read spells what was read. -/
theorem takes_raws : Takes (readList readRaw) SpellsList := by
  refine (takes_list takes_raw).mono fun spells => ?_
  cases spells with
  | bracketed each listed =>
      obtain ⟨values, same⟩ := (List.forall₂_and_left ..).mp each
      rw [← List.forall₂_map_left_iff (f := Raw.bytes), List.forall₂_eq_eq_eq] at same
      subst same
      exact .bracketed listed values

/-! ### Whole texts -/

/-- What is read from a whole text as a list of raw values are the elements of a list. -/
theorem isList_of_read (h : readWholeText (readList readRaw) text = .ok raws) :
    IsList (raws.map Raw.bytes) text := by
  obtain ⟨before, token, after, blank, blank', spells, rfl⟩ := takes_raws.whole h
  cases spells with
  | bracketed listed values =>
      refine .text listed (fun token hmem => ?_) blank blank'
      obtain ⟨raw, hraw, rfl⟩ := List.mem_map.mp hmem
      exact values raw hraw

/-- The entries that a text lists are texts. -/
theorem isText_of_listed (listed : Listed tokens s) (isText : Bytes.IsText s) :
    ∀ token ∈ tokens, Bytes.IsText token := by
  induction listed with
  | nil => exact fun _ hmem => nomatch hmem
  | @one before token after blank blank' =>
      rw [List.append_assoc] at isText
      have behind : ∀ b ∈ after.head?, b.toNat < 128 := fun b hmem =>
        ascii_of_blank blank' b (List.mem_of_mem_head? hmem)
      have own := ((isText.of_append_ascii _ (ascii_of_blank blank)).split behind).1
      simpa using own
  | @more before token after next s tokens blank blank' _ ih =>
      have behind : ∀ b ∈ (after ++ comma :: s).head?, b.toNat < 128 := by
        cases after with
        | nil => exact fun b hmem => Option.some.inj hmem ▸ by decide
        | cons b after => simpa using ascii_of_blank blank' b (List.mem_cons_self ..)
      simp only [List.append_assoc] at isText
      obtain ⟨own, others⟩ := (isText.of_append_ascii _ (ascii_of_blank blank)).split behind
      have rest := (others.of_append_ascii _ (ascii_of_blank blank')).tail (by decide)
      exact List.forall_mem_cons.mpr ⟨own, ih rest⟩

/-- **A text is read as a list of raw values just when it is a list, and these are its
elements.** -/
theorem read_eq_ok_iff :
    readWholeText (readList readRaw) text = .ok raws ↔ IsList (raws.map Raw.bytes) text := by
  refine ⟨isList_of_read, fun isList => ?_⟩
  generalize hlisted : raws.map Raw.bytes = tokens at isList
  cases isList with
  | text listed values blank blank' =>
      subst hlisted
      have spells : SpellsList raws (bracketed _) :=
        .bracketed listed fun raw hmem => values _ (List.mem_map_of_mem hmem)
      exact spells.reads.whole blank blank'

theorem IsList.isValue (isList : IsList tokens text) : ∀ token ∈ tokens, IsValue token := by
  cases isList with
  | text _ values => exact values

/-- The elements of a list that is a text are texts. -/
theorem IsList.exists_raws (isList : IsList tokens text) (isText : Bytes.IsText text) :
    ∃ raws : List Raw, raws.map Raw.bytes = tokens := by
  cases isList with
  | @text before s after listed values blank blank' =>
      have texts : ∀ token ∈ tokens, Bytes.IsText token := by
        simp only [bracketed, List.append_assoc, List.cons_append] at isText
        have inside := (isText.of_append_ascii _ (ascii_of_blank blank)).tail (by decide)
        exact isText_of_listed listed
          (inside.split fun b hmem => Option.some.inj hmem ▸ by decide).1
      obtain ⟨raws, same, -⟩ := exists_map (P := fun _ => True) fun token hmem =>
        (exists_raw (texts token hmem)).imp fun raw made => ⟨trivial, made⟩
      exact ⟨raws, same⟩

/-- A text has its elements in one way only. -/
theorem IsList.unique {tokens' : List Bytes} (isList : IsList tokens text)
    (isList' : IsList tokens' text) (isText : Bytes.IsText text) : tokens = tokens' := by
  obtain ⟨raws, rfl⟩ := isList.exists_raws isText
  obtain ⟨raws', rfl⟩ := isList'.exists_raws isText
  have same := (read_eq_ok_iff.mpr isList).symm.trans (read_eq_ok_iff.mpr isList')
  rw [Except.ok.inj same]

end BlogGateway.Json
