/-
What is read is what is spelled.

`Reads` says that a token is read as a value, wherever it stands.  `Takes` says the converse of a
reader: whatever it has read was white space and a token that spells what it gives.  Readers that
are put together from others take what is put together from theirs, so each combinator has one
lemma here, as it has one for `Reads`.

A reader is then known by its spellings.  It reads them all, and a token that it reads is one.
-/
import BlogGateway.Proofs.Json.Crossed
import BlogGateway.Proofs.Json.Decoded
import Mathlib.Data.List.Forall2

namespace BlogGateway.Json

open Ascii

/-- Whatever the reader has read is white space and a spelling of what it gives. -/
def Takes {α : Type} (read : Reader α) (Spelled : α → Bytes → Prop) : Prop :=
  ∀ s value rest, read s = .ok (value, rest) →
    ∃ before token, Blank before ∧ Spelled value token ∧ s = before ++ token ++ rest

variable {α β : Type} {read : Reader α} {Spelled : α → Bytes → Prop} {value : α}
  {s rest token before lead : Bytes} {b : UInt8} {values : List α} {tokens : List Bytes}

/-! ### White space -/

theorem skipSpace_skipSpace (s : Bytes) : skipSpace (skipSpace s) = skipSpace s := by
  obtain ⟨before, blank, split⟩ := exists_blank s
  rw [← skipSpace_blank blank, ← split]

/-- The bytes from the first that is no white space on. -/
theorem exists_blank_cons (h : skipSpace s = b :: rest) :
    ∃ before, Blank before ∧ s = before ++ b :: rest := by
  obtain ⟨before, blank, split⟩ := exists_blank s
  exact ⟨before, blank, h ▸ split⟩

theorem isSpace_of_skipSpace (h : skipSpace s = b :: rest) : isSpace b = false := by
  have ends := List.head?_dropWhile_not isSpace s
  rw [← skipSpace, h] at ends
  simpa using ends

theorem blank_append {after : Bytes} (blank : Blank before) (blank' : Blank after) :
    Blank (before ++ after) := by
  intro b hmem
  rcases List.mem_append.mp hmem with hmem | hmem
  · exact blank b hmem
  · exact blank' b hmem

/-- A value has no white space in front. -/
theorem eq_nil_of_isValue (isValue : IsValue (before ++ s)) (blank : Blank before) :
    before = [] := by
  obtain ⟨b, t', same, begins⟩ := isValue.begins
  cases before with
  | nil => rfl
  | cons space before =>
      obtain ⟨rfl, -⟩ := List.cons.inj same
      have not := begins.isSpace_eq_false
      rw [isSpace_iff.mpr (blank space (List.mem_cons_self ..))] at not
      cases not

/-! ### Tokens and whole texts -/

theorem Takes.mono {Spelled' : α → Bytes → Prop} (takes : Takes read Spelled)
    (each : ∀ {value token}, Spelled value token → Spelled' value token) :
    Takes read Spelled' := by
  intro s value rest h
  obtain ⟨before, token, blank, spells, split⟩ := takes s value rest h
  exact ⟨before, token, blank, each spells, split⟩

/-- A token that is read is a spelling. -/
theorem Takes.spelled (takes : Takes read Spelled) (reads : Reads read token value) :
    Spelled value token := by
  have read_eq := reads.read_eq [] [] blank_nil stops_nil
  rw [List.nil_append, List.append_nil] at read_eq
  obtain ⟨before, own, blank, spells, rfl⟩ := takes token value [] read_eq
  have isValue := reads.isValue
  rw [List.append_nil] at isValue ⊢
  obtain rfl := eq_nil_of_isValue isValue blank
  exact spells

/-- A text that is read is a spelling with white space around it. -/
theorem Takes.whole (takes : Takes read Spelled) (h : readWholeText read s = .ok value) :
    ∃ before token after, Blank before ∧ Blank after ∧ Spelled value token ∧
      s = before ++ token ++ after := by
  obtain ⟨⟨value', after⟩, read, ended⟩ := Except.bind_eq_ok_iff.mp h
  obtain ⟨before, token, blank, spells, rfl⟩ := takes s value' after read
  dsimp only at ended
  split at ended
  · rename_i nothing
    obtain rfl := Except.ok.inj ended
    exact ⟨before, token, after, blank, blank_of_skipSpace_eq_nil nothing, spells, rfl⟩
  · cases ended

/-- A value that is read has nothing but the spelling. -/
theorem Takes.alone (takes : Takes read Spelled) (isValue : IsValue s)
    (each : ∀ {token}, Spelled value token → IsValue token) (h : readWholeText read s = .ok value) :
    Spelled value s := by
  obtain ⟨before, token, after, blank, blank', spells, rfl⟩ := takes.whole h
  rw [List.append_assoc] at isValue
  obtain rfl := eq_nil_of_isValue isValue blank
  have stops : Stops after := by
    simpa using stops_append blank' stops_nil
  have crossed := skipValue_of_isValue (each spells) stops
  have alone : skipValue (token ++ after) = .ok [] := by
    simpa using skipValue_of_isValue isValue stops_nil
  obtain rfl := Except.ok.inj (crossed.symm.trans alone)
  simpa using spells

/-- A reader that looks at the first byte of a value takes what it takes from that byte on. -/
theorem takes_atValue {read : UInt8 → Bytes → Except Error (α × Bytes)}
    (takes : ∀ b t value rest, isSpace b = false → read b t = .ok (value, rest) →
      ∃ token, Spelled value token ∧ b :: t = token ++ rest) : Takes (atValue read) Spelled := by
  intro s value rest h
  unfold atValue at h
  split at h
  · cases h
  · rename_i b t skipped
    obtain ⟨before, blank, rfl⟩ := exists_blank_cons skipped
    obtain ⟨token, spells, split⟩ := takes b t value rest (isSpace_of_skipSpace skipped) h
    exact ⟨before, token, blank, spells, by rw [split, List.append_assoc]⟩

/-- From a byte on that is no white space a token is taken. -/
theorem Takes.here (takes : Takes read Spelled) (space : isSpace b = false)
    (h : read (b :: s) = .ok (value, rest)) :
    ∃ token, Spelled value token ∧ b :: s = token ++ rest := by
  obtain ⟨before, token, blank, spells, split⟩ := takes _ _ _ h
  cases before with
  | nil => exact ⟨token, spells, split⟩
  | cons b' before =>
      obtain ⟨rfl, -⟩ := List.cons.inj split
      rw [isSpace_iff.mpr (blank b (List.mem_cons_self ..))] at space
      cases space

/-- What is made of a value that was read, without reading on. -/
theorem Takes.andThen {next : α × Bytes → Except Error (β × Bytes)} {Spelled' : β → Bytes → Prop}
    (takes : Takes read Spelled)
    (made : ∀ value rest result rest', next (value, rest) = .ok (result, rest') →
      rest' = rest ∧ ∀ token, Spelled value token → Spelled' result token) :
    Takes (fun s => read s >>= next) Spelled' := by
  intro s result rest h
  obtain ⟨⟨value, behind⟩, h, ended⟩ := Except.bind_eq_ok_iff.mp h
  obtain ⟨rfl, spells'⟩ := made value behind result rest ended
  obtain ⟨before, token, blank, spells, split⟩ := takes s value _ h
  exact ⟨before, token, blank, spells' token spells, split⟩

/-! ### Words and strings -/

theorem eq_append_of_expectWord {word : Bytes} (h : expectWord word s = .ok rest) :
    s = word ++ rest := by
  induction word generalizing s with
  | nil => exact Except.ok.inj h
  | cons w word ih =>
      cases s with
      | nil => cases h
      | cons b s =>
          rw [expectWord] at h
          split at h
          · subst_vars
            rw [ih h, List.cons_append]
          · cases h

theorem takes_string (wanted : String) : Takes (readString wanted) SpellsString := by
  refine takes_atValue fun b t text rest _ h => ?_
  split at h
  · subst_vars
    obtain ⟨spelled, rfl, spells⟩ := spells_of_readText (Except.mapError_eq_ok_iff.mp h)
    exact ⟨quoted spelled, .quoted spells, by simp [quoted]⟩
  · cases h

/-- A value that is read as a string is one that spells what is read. -/
theorem Raw.read_string_iff {raw : Raw} {text wanted : String} (isValue : IsValue raw.bytes) :
    raw.read (readString wanted) = .ok text ↔ SpellsString text raw.bytes := by
  constructor
  · exact (takes_string wanted).alone isValue fun spells => (spells.reads wanted).isValue
  · intro spells
    exact (spells.reads wanted).raw

/-- A string spells one text only. -/
theorem SpellsString.unique {text text' : String} (spells : SpellsString text token)
    (spells' : SpellsString text' token) : text = text' := by
  have read := (spells.reads "a string").alone
  exact Except.ok.inj (read.symm.trans (spells'.reads "a string").alone)

/-- The bytes are null or a spelling of the value. -/
inductive SpellsMaybe (Spelled : α → Bytes → Prop) : Option α → Bytes → Prop
  | null : SpellsMaybe Spelled none [0x6E, 0x75, 0x6C, 0x6C]
  | value {value : α} {token : Bytes} (spells : Spelled value token) :
      SpellsMaybe Spelled (some value) token

/-- What is null or a value is read as nothing or as the value. -/
theorem SpellsMaybe.reads {value? : Option α} (spells : SpellsMaybe Spelled value? token)
    (each : ∀ {value token}, Spelled value token → Reads read token value ∧
      token.head? ≠ some lowerN) : Reads (readOption read) token value? := by
  cases spells with
  | null => exact reads_null
  | value spells => exact (each spells).1.option (each spells).2

theorem takes_option (takes : Takes read Spelled) :
    Takes (readOption read) (SpellsMaybe Spelled) := by
  intro s value? rest h
  obtain ⟨before, blank, split⟩ := exists_blank s
  have own {s' rest' : Bytes} {value : α} (skipped : skipSpace s = s')
      (h : read s' = .ok (value, rest')) :
      ∃ before token, Blank before ∧ SpellsMaybe Spelled (some value) token ∧
        s = before ++ token ++ rest' := by
    obtain ⟨before', token, blank', spells, split'⟩ := takes s' value rest' h
    refine ⟨before ++ before', token, blank_append blank blank', .value spells, ?_⟩
    rw [split, skipped, split']
    simp
  unfold readOption at h
  split at h
  · rename_i b t skipped
    split at h
    · subst_vars
      obtain ⟨rest', expected, made⟩ :=
        Except.map_eq_ok_iff.mp (Except.mapError_eq_ok_iff.mp h)
      obtain ⟨rfl, rfl⟩ := Prod.mk.inj made
      refine ⟨before, _, blank, .null, ?_⟩
      rw [split, skipped, eq_append_of_expectWord expected]
      simp [lowerN]
    · obtain ⟨⟨value, rest'⟩, read, made⟩ := Except.map_eq_ok_iff.mp h
      obtain ⟨rfl, rfl⟩ := Prod.mk.inj made
      exact own skipped read
  · obtain ⟨⟨value, rest'⟩, read, made⟩ := Except.map_eq_ok_iff.mp h
    obtain ⟨rfl, rfl⟩ := Prod.mk.inj made
    exact own ‹_› read

/-! ### Lists -/

/-- There is no other element where the list ends. -/
theorem of_nextElement_none {first : Bool} (h : nextElement first s = .ok none) :
    ∃ before tail, Blank before ∧ s = before ++ closeBracket :: tail := by
  unfold nextElement at h
  split at h
  · cases h
  · rename_i b tail skipped
    obtain ⟨before, blank, rfl⟩ := exists_blank_cons skipped
    split at h
    · subst_vars
      exact ⟨before, tail, blank, rfl⟩
    · exfalso
      split at h
      · split at h
        · cases h
        · split at h <;> cases h
      · split at h <;> cases h

/-- Another element begins behind a comma, and the first one at once. -/
theorem of_nextElement_some {first : Bool} {next : Bytes}
    (h : nextElement first s = .ok (some next)) :
    ∃ lead behind, Leads first lead ∧ s = lead ++ behind ∧ skipSpace behind = next := by
  unfold nextElement at h
  split at h
  · cases h
  · rename_i b tail skipped
    split at h
    · cases h
    · split at h
      · rename_i separated
        simp only [Bool.and_eq_true, decide_eq_true_eq, Bool.not_eq_true'] at separated
        obtain ⟨rfl, rfl⟩ := separated
        obtain ⟨before, blank, rfl⟩ := exists_blank_cons skipped
        split at h
        · cases h
        · split at h
          · cases h
          · rename_i c rest skipped' _
            rw [← Option.some.inj (Except.ok.inj h), ← skipped']
            exact ⟨before ++ [comma], tail, ⟨before, blank, rfl⟩, by simp, rfl⟩
      · split at h
        · rename_i first
          subst first
          rw [← Option.some.inj (Except.ok.inj h), ← skipped]
          exact ⟨[], s, rfl, rfl, rfl⟩
        · cases h

/-- A list ends at its closing bracket. -/
theorem of_endList (h : endList s = .ok rest) :
    ∃ after, Blank after ∧ s = after ++ closeBracket :: rest := by
  unfold endList at h
  split at h
  · cases h
  · rename_i b t skipped
    split at h
    · subst_vars
      obtain rfl := Except.ok.inj h
      exact exists_blank_cons skipped
    · exfalso
      split at h
      · split at h
        · split at h <;> cases h
        · cases h
      · cases h

/-- An element is read where it begins. -/
theorem Takes.element {first : Bool} {next : Bytes} (takes : Takes read Spelled)
    (found : nextElement first s = .ok (some next)) (h : read next = .ok (value, rest)) :
    ∃ lead before token, Leads first lead ∧ Blank before ∧ Spelled value token ∧
      s = lead ++ (before ++ token ++ rest) := by
  obtain ⟨lead, start, leads, rfl, rfl⟩ := of_nextElement_some found
  obtain ⟨before, blank, split⟩ := exists_blank start
  obtain ⟨before', token, blank', spells, split'⟩ := takes _ _ _ h
  refine ⟨lead, before ++ before', token, leads, blank_append blank blank', spells, ?_⟩
  rw [split, split']
  simp

/-- The tokens are listed up to the closing byte; without an element in front of them the first
stands without a comma. -/
inductive ListedUpTo (close : UInt8) (first : Bool) (tokens : List Bytes) (tail : Bytes) :
    Bytes → Prop
  | listed {lead content : Bytes} (leads : if tokens = [] then lead = [] else Leads first lead)
      (listed : Listed tokens content) :
      ListedUpTo close first tokens tail (lead ++ (content ++ close :: tail))

section ListedUpTo

variable {close : UInt8} {first : Bool} {tail : Bytes}

theorem ListedUpTo.nil (blank : Blank before) :
    ListedUpTo close first [] tail (before ++ close :: tail) := by
  have leads : if ([] : List Bytes) = [] then ([] : Bytes) = [] else Leads first [] := rfl
  exact .listed leads (.nil blank)

/-- Where others are listed, one more can stand in front of them. -/
theorem ListedUpTo.cons (others : ListedUpTo close false tokens tail s) (leads : Leads first lead)
    (blank : Blank before) :
    ListedUpTo close first (token :: tokens) tail (lead ++ (before ++ token ++ s)) := by
  cases others with
  | @listed lead' content' leads' listed' =>
      have behind : Behind close tail tokens (lead' ++ (content' ++ close :: tail)) := by
        split at leads'
        · subst_vars
          cases listed' with
          | nil blank => exact .last rfl blank
        · exact .more ‹_› leads' listed'
      obtain ⟨content, listed, whole⟩ : ∃ content, Listed (token :: tokens) content ∧
          before ++ token ++ (lead' ++ (content' ++ close :: tail)) = content ++ close :: tail :=
        behind.listed blank
      rw [whole]
      exact .listed leads listed

theorem ListedUpTo.exists_listed (h : ListedUpTo close true tokens tail s) :
    ∃ content, Listed tokens content ∧ s = content ++ close :: tail := by
  cases h with
  | @listed lead content leads listed =>
      obtain rfl : lead = [] := by split at leads <;> exact leads
      exact ⟨content, listed, rfl⟩

end ListedUpTo

/-- The elements that have been read are listed up to the end of the list. -/
theorem listed_of_readElements {fuel : Nat} {first : Bool} (takes : Takes read Spelled)
    (h : readElements read fuel first s = .ok (values, rest)) :
    ∃ after tail tokens, rest = after ++ closeBracket :: tail ∧ Blank after ∧
      ListedUpTo closeBracket first tokens tail s ∧ List.Forall₂ Spelled values tokens := by
  induction fuel generalizing first s values with
  | zero => cases h
  | succ fuel ih =>
      obtain ⟨next, found, h⟩ := Except.bind_eq_ok_iff.mp h
      have found := Except.mapError_eq_ok_iff.mp found
      cases next with
      | none =>
          obtain ⟨rfl, rfl⟩ := Prod.mk.inj (Except.ok.inj h)
          obtain ⟨before, tail, blank, rfl⟩ := of_nextElement_none found
          exact ⟨before, tail, [], rfl, blank, .nil blank, .nil⟩
      | some next =>
          obtain ⟨⟨value, behind⟩, read, h⟩ := Except.bind_eq_ok_iff.mp h
          obtain ⟨⟨others, last⟩, readOthers, h⟩ := Except.bind_eq_ok_iff.mp h
          obtain ⟨rfl, rfl⟩ := Prod.mk.inj (Except.ok.inj h)
          obtain ⟨lead, before, token, leads, blank, spells, rfl⟩ := takes.element found read
          obtain ⟨after, tail, tokens, rfl, blank', listed, each⟩ := ih readOthers
          exact ⟨after, tail, token :: tokens, rfl, blank', listed.cons leads blank,
            .cons spells each⟩

/-- Up to the closing bracket the elements are listed. -/
theorem bracketed_of_readElements {fuel : Nat} {behind : Bytes} (takes : Takes read Spelled)
    (h : readElements read fuel true s = .ok (values, behind)) (ended : endList behind = .ok rest) :
    ∃ tokens content, Listed tokens content ∧ List.Forall₂ Spelled values tokens ∧
      openBracket :: s = bracketed content ++ rest := by
  obtain ⟨after, tail, tokens, rfl, blank, upTo, each⟩ := listed_of_readElements takes h
  obtain ⟨content, listed, rfl⟩ := upTo.exists_listed
  rw [endList_close blank] at ended
  obtain rfl := Except.ok.inj ended
  exact ⟨tokens, content, listed, each, by simp [bracketed]⟩

/-- Values and their tokens are as many, and so are items that have both. -/
theorem exists_items (each : List.Forall₂ Spelled values tokens) :
    ∃ items : List (Bytes × α), items.map Prod.fst = tokens ∧ items.map Prod.snd = values ∧
      ∀ item ∈ items, Spelled item.2 item.1 := by
  induction each with
  | nil => exact ⟨[], rfl, rfl, by simp⟩
  | @cons value token _ _ own _ ih =>
      obtain ⟨items, rfl, rfl, others⟩ := ih
      exact ⟨(token, value) :: items, rfl, rfl, List.forall_mem_cons.mpr ⟨own, others⟩⟩

/-- The bytes are a list that has a spelling of each of the values. -/
inductive SpellsEach (Spelled : α → Bytes → Prop) (values : List α) : Bytes → Prop
  | bracketed {tokens : List Bytes} {s : Bytes} (each : List.Forall₂ Spelled values tokens)
      (listed : Listed tokens s) : SpellsEach Spelled values (bracketed s)

/-- A list is read from the spellings of its values. -/
theorem SpellsEach.reads (spells : SpellsEach Spelled values token)
    (each : ∀ {value token}, Spelled value token → Reads read token value) :
    Reads (readList read) token values := by
  cases spells with
  | bracketed spelled listed =>
      obtain ⟨items, rfl, rfl, own⟩ := exists_items spelled
      exact reads_list items listed fun item hmem => each (own item hmem)

/-- What is made of the values of a list may be told from their spellings. -/
theorem SpellsEach.map {Spelled' : β → Bytes → Prop} {f : α → β}
    (spells : SpellsEach Spelled values token)
    (each : ∀ {value token}, Spelled value token → Spelled' (f value) token) :
    SpellsEach Spelled' (values.map f) token := by
  cases spells with
  | bracketed spelled listed =>
      exact .bracketed (List.forall₂_map_left_iff.mpr (spelled.imp fun _ _ => each)) listed

/-- Values that are made of others can be told with these. -/
theorem SpellsEach.exists_map {Spelled' : β → Bytes → Prop} {f : β → α}
    (spells : SpellsEach Spelled values token)
    (each : ∀ {value token}, Spelled value token →
      ∃ whole, f whole = value ∧ Spelled' whole token) :
    ∃ wholes, wholes.map f = values ∧ SpellsEach Spelled' wholes token := by
  cases spells with
  | @bracketed tokens s spelled listed =>
      have wholes : ∃ wholes, wholes.map f = values ∧ List.Forall₂ Spelled' wholes tokens := by
        clear listed
        induction spelled with
        | nil => exact ⟨[], rfl, .nil⟩
        | cons own _ ih =>
            obtain ⟨wholes, rfl, others⟩ := ih
            obtain ⟨whole, rfl, first⟩ := each own
            exact ⟨whole :: wholes, rfl, .cons first others⟩
      obtain ⟨wholes, same, spelled⟩ := wholes
      exact ⟨wholes, same, .bracketed spelled listed⟩

theorem SpellsEach.head? (spells : SpellsEach Spelled values token) :
    token.head? ≠ some lowerN := by
  cases spells with
  | bracketed => exact fun same => absurd (Option.some.inj same) (by decide)

theorem takes_list (takes : Takes read Spelled) : Takes (readList read) (SpellsEach Spelled) := by
  refine takes_atValue fun b t values rest _ h => ?_
  split at h
  · subst_vars
    obtain ⟨⟨values', behind⟩, read, h⟩ := Except.bind_eq_ok_iff.mp h
    obtain ⟨tail, ended, h⟩ := Except.bind_eq_ok_iff.mp h
    obtain ⟨rfl, rfl⟩ := Prod.mk.inj (Except.ok.inj h)
    obtain ⟨tokens, content, listed, each, split⟩ :=
      bracketed_of_readElements takes read (Except.mapError_eq_ok_iff.mp ended)
    exact ⟨bracketed content, .bracketed each listed, split⟩
  · cases h

/-- The bytes are a list of two, a spelling of each of the values. -/
inductive SpellsPair (Left : α → Bytes → Prop) (Right : β → Bytes → Prop) (values : α × β) :
    Bytes → Prop
  | bracketed {first second s : Bytes} (left : Left values.1 first) (right : Right values.2 second)
      (listed : Listed [first, second] s) : SpellsPair Left Right values (bracketed s)

theorem takes_pair {left : Reader α} {right : Reader β} {Left : α → Bytes → Prop}
    {Right : β → Bytes → Prop} (takesLeft : Takes left Left) (takesRight : Takes right Right) :
    Takes (readPair left right) (SpellsPair Left Right) := by
  refine takes_atValue fun b t values rest _ h => ?_
  split at h
  · subst_vars
    obtain ⟨next, found, h⟩ := Except.bind_eq_ok_iff.mp h
    have found := Except.mapError_eq_ok_iff.mp found
    cases next with
    | none => cases h
    | some next =>
        obtain ⟨⟨first, behind⟩, read, h⟩ := Except.bind_eq_ok_iff.mp h
        obtain ⟨next', found', h⟩ := Except.bind_eq_ok_iff.mp h
        have found' := Except.mapError_eq_ok_iff.mp found'
        cases next' with
        | none => cases h
        | some next' =>
            obtain ⟨⟨second, behind'⟩, read', h⟩ := Except.bind_eq_ok_iff.mp h
            obtain ⟨tail, ended, h⟩ := Except.bind_eq_ok_iff.mp h
            obtain ⟨rfl, rfl⟩ := Prod.mk.inj (Except.ok.inj h)
            obtain ⟨lead, before, token, leads, blank, spells, rfl⟩ := takesLeft.element found read
            obtain ⟨lead', before', token', leads', blank', spells', rfl⟩ :=
              takesRight.element found' read'
            obtain ⟨after, blank'', rfl⟩ := of_endList (Except.mapError_eq_ok_iff.mp ended)
            have upTo : ListedUpTo closeBracket true [token, token'] tail
                (lead ++ (before ++ token ++ (lead' ++ (before' ++ token' ++
                  (after ++ closeBracket :: tail))))) :=
              ((ListedUpTo.nil blank'').cons leads' blank').cons leads blank
            obtain ⟨content, listed, whole⟩ := upTo.exists_listed
            refine ⟨bracketed content, .bracketed spells spells' listed, ?_⟩
            rw [whole]
            simp [bracketed]
  · cases h

end BlogGateway.Json
