/-
What a reader reads.

`Reads` says that a reader takes a token for a value: wherever the token stands, with white
space before it and something behind it that no value goes on into, the reader gives the value
and leaves what stands behind.  Readers that are put together from others read tokens that are
put together from theirs, so each combinator has one lemma here, and what a compound reader
reads follows from its parts.

Values that are kept as they arrived are the case everything else rests on: a raw value is
read as exactly the bytes that spell it.
-/
import BlogGateway.Json.Reader
import BlogGateway.Proofs.Except
import BlogGateway.Proofs.Json.Crossing

namespace BlogGateway.Json

open Ascii

/-- The reader takes the token for the value, wherever it stands. -/
structure Reads {α : Type} (read : Reader α) (token : Bytes) (value : α) : Prop where
  isValue : IsValue token
  read_eq : ∀ before rest, Blank before → Stops rest →
    read (before ++ token ++ rest) = .ok (value, rest)

variable {α β : Type} {read : Reader α} {token : Bytes} {value : α}
  {before after s rest : Bytes} {b : UInt8}

/-! ### White space -/

theorem skipSpace_blank (blank : Blank before) : skipSpace (before ++ s) = skipSpace s :=
  List.dropWhile_append_of_pos fun b hmem => isSpace_iff.mpr (blank b hmem)

/-- In front of a token only white space is skipped. -/
theorem skipSpace_cons (blank : Blank before) (space : isSpace b = false) :
    skipSpace (before ++ b :: s) = b :: s := by
  rw [skipSpace_blank blank, skipSpace, List.dropWhile_cons, space]
  rfl

theorem skipSpace_eq_nil (blank : Blank before) : skipSpace before = [] := by
  rw [← List.append_nil before, skipSpace_blank blank]
  rfl

theorem skipSpace_token (blank : Blank before) (h : IsValue token) :
    skipSpace (before ++ token ++ rest) = token ++ rest := by
  obtain ⟨b, t, rfl, begins⟩ := h.begins
  rw [List.append_assoc]
  exact skipSpace_cons blank begins.isSpace_eq_false

/-- A reader that looks at the first byte of a value only has to take what begins with it. -/
theorem reads_atValue {read : UInt8 → Bytes → Except Error (α × Bytes)}
    (h : IsValue (b :: s))
    (takes : ∀ rest, Stops rest → read b (s ++ rest) = .ok (value, rest)) :
    Reads (atValue read) (b :: s) value := by
  refine ⟨h, fun before rest blank stops => ?_⟩
  unfold atValue
  rw [skipSpace_token blank h]
  exact takes rest stops

/-- What is made of a value that was read, without reading on. -/
theorem Reads.andThen {result : β} {next : α × Bytes → Except Error (β × Bytes)}
    (h : Reads read token value) (made : ∀ rest, next (value, rest) = .ok (result, rest)) :
    Reads (fun s => read s >>= next) token result := by
  refine ⟨h.isValue, fun before rest blank stops => ?_⟩
  show (read (before ++ token ++ rest)).bind next = .ok (result, rest)
  rw [h.read_eq before rest blank stops]
  exact made rest

/-! ### Raw values -/

/-- A value is kept as the bytes that spell it. -/
theorem reads_raw {raw : Raw} (h : IsValue raw.bytes) : Reads readRaw raw.bytes raw := by
  refine ⟨h, fun before rest blank stops => ?_⟩
  have taken : (raw.bytes ++ rest).take ((raw.bytes ++ rest).length - rest.length) = raw.bytes := by
    simp
  have text : Bytes.toText? raw.bytes = some raw.text := Bytes.toText?_ofText raw.text
  unfold readRaw
  simp only [skipSpace_token blank h, skipValue_of_isValue h stops, taken, text, bind,
    Except.bind, Except.mapError_ok]

/-! ### Whole texts -/

/-- A text that holds a token and white space is read as the token. -/
theorem Reads.whole (h : Reads read token value) (blank : Blank before) (blank' : Blank after) :
    readWholeText read (before ++ token ++ after) = .ok value := by
  have stops : Stops after := by
    simpa using stops_append blank' stops_nil
  unfold readWholeText
  simp only [h.read_eq before after blank stops, bind, Except.bind, skipSpace_eq_nil blank']
  rfl

theorem Reads.alone (h : Reads read token value) : readWholeText read token = .ok value := by
  have whole := h.whole blank_nil blank_nil
  rwa [List.nil_append, List.append_nil] at whole

/-- A raw value is read as the token that it is. -/
theorem Reads.raw {raw : Raw} (h : Reads read raw.bytes value) : raw.read read = .ok value :=
  h.alone

/-! ### Null -/

theorem reads_null : Reads (readOption read) [0x6E, 0x75, 0x6C, 0x6C] none := by
  refine ⟨.null, fun before rest blank stops => ?_⟩
  unfold readOption
  rw [skipSpace_token blank .null]
  rfl

theorem Reads.option (h : Reads read token value) (other : token.head? ≠ some lowerN) :
    Reads (readOption read) token (some value) := by
  refine ⟨h.isValue, fun before rest blank stops => ?_⟩
  have read_eq := h.read_eq [] rest blank_nil stops
  obtain ⟨b, t, rfl, -⟩ := h.isValue.begins
  have ne : b ≠ lowerN := fun same => other (congrArg some same)
  unfold readOption
  rw [skipSpace_token blank h.isValue, List.cons_append]
  simp only [ne, ↓reduceIte]
  rw [List.nil_append, List.cons_append] at read_eq
  rw [read_eq]
  rfl

/-! ### Lists -/

theorem nextElement_close {first : Bool} (blank : Blank before) :
    nextElement first (before ++ closeBracket :: s) = .ok none := by
  unfold nextElement
  rw [skipSpace_cons blank rfl]
  rfl

theorem endList_close (blank : Blank before) :
    endList (before ++ closeBracket :: s) = .ok s := by
  unfold endList
  rw [skipSpace_cons blank rfl]
  rfl

/-- What stands before an element: nothing before the first, and a comma before the others. -/
def Leads (first : Bool) (lead : Bytes) : Prop :=
  if first then lead = [] else ∃ blank, Blank blank ∧ lead = blank ++ [comma]

theorem nextElement_token {first : Bool} {lead : Bytes} (leads : Leads first lead)
    (blank : Blank before) (h : IsValue token) :
    nextElement first (lead ++ (before ++ token ++ rest)) = .ok (some (token ++ rest)) := by
  have skipped : skipSpace (before ++ token ++ rest) = token ++ rest := skipSpace_token blank h
  obtain ⟨b, t, rfl, begins⟩ := h.begins
  have ne_close : b ≠ closeBracket := begins.ne (by decide)
  have ne_comma : b ≠ comma := begins.ne (by decide)
  unfold nextElement
  cases first with
  | true =>
      obtain rfl : lead = [] := leads
      rw [List.nil_append, skipped]
      simp [ne_close, ne_comma]
  | false =>
      obtain ⟨space, blank', rfl⟩ : ∃ space, Blank space ∧ lead = space ++ [comma] := leads
      rw [List.append_assoc, List.singleton_append, skipSpace_cons blank' rfl]
      dsimp only
      rw [if_neg (by decide), if_pos (by decide), skipped]
      exact if_neg ne_close

/-- One element is read, and the others behind it. -/
theorem readElements_cons {first : Bool} {lead : Bytes} (leads : Leads first lead)
    (blank : Blank before) (h : Reads read token value) (stops : Stops rest) (fuel : Nat) :
    readElements read (fuel + 1) first (lead ++ (before ++ token ++ rest))
      = (readElements read fuel false rest).map fun (values, s) => (value :: values, s) := by
  have read_eq := h.read_eq [] rest blank_nil stops
  rw [List.nil_append] at read_eq
  rw [readElements]
  simp only [nextElement_token leads blank h.isValue, Except.mapError_ok, bind, Except.bind,
    read_eq]
  cases readElements read fuel false rest <;> rfl

/-- The elements end at the closing bracket. -/
theorem readElements_close {first : Bool} (blank : Blank before) (fuel : Nat) :
    readElements read (fuel + 1) first (before ++ closeBracket :: rest)
      = .ok ([], before ++ closeBracket :: rest) := by
  rw [readElements]
  simp only [nextElement_close blank, Except.mapError_ok, bind, Except.bind]
  rfl

/-- What stands behind an entry of a container: its end, or a comma and the other entries. -/
inductive Behind (close : UInt8) (rest : Bytes) (tokens : List Bytes) : Bytes → Prop
  | last {after : Bytes} (none : tokens = []) (blank : Blank after) :
      Behind close rest tokens (after ++ close :: rest)
  | more {lead s : Bytes} (some : tokens ≠ []) (leads : Leads false lead)
      (listed : Listed tokens s) : Behind close rest tokens (lead ++ (s ++ close :: rest))

/-- The first of the entries of a container is taken off. -/
theorem Listed.uncons {tokens : List Bytes} (listed : Listed (token :: tokens) s) (close : UInt8)
    (closes : close ∈ [closeBracket, closeBrace]) (rest : Bytes) :
    ∃ before tail, Blank before ∧ Stops tail ∧ Behind close rest tokens tail ∧
      s ++ close :: rest = before ++ token ++ tail := by
  cases listed with
  | @one before token after blank blank' =>
      have stops : Stops (close :: rest) :=
        stops_cons (List.mem_append_right [0x20, 0x0A, 0x09, 0x0D, comma] closes)
      exact ⟨before, after ++ close :: rest, blank, stops_append blank' stops, .last rfl blank',
        List.append_assoc ..⟩
  | @more before token after next s tokens blank blank' others =>
      have leads : Leads false (after ++ [comma]) := ⟨after, blank', rfl⟩
      have stops : Stops (after ++ [comma] ++ (s ++ close :: rest)) := by
        rw [List.append_assoc]
        exact stops_append blank' (stops_cons (by decide))
      exact ⟨before, _, blank, stops, .more (List.cons_ne_nil _ _) leads others, by simp⟩

/-- As many elements are read as are listed. -/
theorem readElements_of_listed {items : List (Bytes × α)} (listed : Listed (items.map Prod.fst) s)
    (some : items ≠ []) (reads : ∀ item ∈ items, Reads read item.1 item.2) {fuel : Nat}
    (enough : items.length ≤ fuel) {first : Bool} {lead : Bytes} (leads : Leads first lead) :
    ∃ after, Blank after ∧
      readElements read (fuel + 1) first (lead ++ (s ++ closeBracket :: rest))
        = .ok (items.map Prod.snd, after ++ closeBracket :: rest) := by
  induction items generalizing s fuel first lead with
  | nil => exact absurd rfl some
  | cons item items ih =>
      obtain ⟨fuel, rfl⟩ : ∃ left, fuel = left + 1 := ⟨fuel - 1, by simp at enough; omega⟩
      obtain ⟨before, tail, blank, stops, behind, split⟩ :=
        listed.uncons closeBracket (by decide) rest
      rw [split, readElements_cons leads blank (reads item (List.mem_cons_self ..)) stops]
      cases behind with
      | @last after none blank' =>
          obtain rfl := List.map_eq_nil_iff.mp none
          exact ⟨after, blank', by rw [readElements_close blank']; rfl⟩
      | more some leads' listed' =>
          obtain ⟨after, blank', ended⟩ := ih listed' (mt List.map_eq_nil_iff.mpr some)
            (fun item hmem => reads item (List.mem_cons_of_mem _ hmem))
            (Nat.le_of_succ_le_succ enough) leads'
          exact ⟨after, blank', by rw [ended]; rfl⟩

/-- The bytes of a list are at least as many as its entries. -/
theorem Listed.length_le {tokens : List Bytes} (listed : Listed tokens s)
    (some : ∀ token ∈ tokens, token ≠ []) : tokens.length ≤ s.length := by
  induction listed with
  | nil => exact Nat.zero_le _
  | @one before token after =>
      have := List.length_pos_iff.mpr (some token (List.mem_cons_self ..))
      simp only [List.length_append, List.length_cons, List.length_nil]
      omega
  | @more before token after next s tokens _ _ _ ih =>
      have := ih fun token hmem => some token (List.mem_cons_of_mem _ hmem)
      simp only [List.length_append, List.length_cons] at this ⊢
      omega

/-- The elements between the brackets of a list are read, with as much fuel as there are bytes. -/
theorem readElements_bracketed (items : List (Bytes × α)) (listed : Listed (items.map Prod.fst) s)
    (reads : ∀ item ∈ items, Reads read item.1 item.2) (rest : Bytes) :
    ∃ after, Blank after ∧
      readElements read ((s ++ closeBracket :: rest).length + 1) true (s ++ closeBracket :: rest)
        = .ok (items.map Prod.snd, after ++ closeBracket :: rest) := by
  cases items with
  | nil =>
      cases listed with
      | nil blank => exact ⟨s, blank, readElements_close blank _⟩
  | cons item items =>
      have some : ∀ token ∈ (item :: items).map Prod.fst, token ≠ [] := by
        intro token hmem
        obtain ⟨item, hitem, rfl⟩ := List.mem_map.mp hmem
        exact (reads item hitem).isValue.ne_nil
      have enough := listed.length_le some
      have leads : Leads true [] := rfl
      refine readElements_of_listed listed (List.cons_ne_nil _ _) reads ?_ leads
      rw [List.length_map] at enough
      rw [List.length_append]
      exact Nat.le_add_right_of_le enough

/-- A list whose elements are read is a value. -/
theorem isValue_bracketed (items : List (Bytes × α)) (listed : Listed (items.map Prod.fst) s)
    (reads : ∀ item ∈ items, Reads read item.1 item.2) : IsValue (bracketed s) := by
  refine .list listed fun token hmem => ?_
  obtain ⟨item, hitem, rfl⟩ := List.mem_map.mp hmem
  exact (reads item hitem).isValue

/-- A list of tokens is read as the list of their values. -/
theorem reads_list (items : List (Bytes × α)) (listed : Listed (items.map Prod.fst) s)
    (reads : ∀ item ∈ items, Reads read item.1 item.2) :
    Reads (readList read) (bracketed s) (items.map Prod.snd) := by
  refine reads_atValue (isValue_bracketed items listed reads) fun rest stops => ?_
  rw [List.append_assoc, List.singleton_append]
  simp only [↓reduceIte]
  obtain ⟨after, blank, ended⟩ := readElements_bracketed items listed reads rest
  simp only [ended, endList_close blank, Except.mapError_ok, bind, Except.bind]
  rfl

/-- A list is read back when each of its values is spelled so that it is. -/
theorem reads_listed {spell : α → Bytes} {values : List α} (listed : Listed (values.map spell) s)
    (reads : ∀ value ∈ values, Reads read (spell value) value) :
    Reads (readList read) (bracketed s) values := by
  have listed' : Listed ((values.map fun value => (spell value, value)).map Prod.fst) s := by
    rwa [List.map_map]
  have each : ∀ item ∈ values.map fun value => (spell value, value), Reads read item.1 item.2 := by
    intro item hmem
    obtain ⟨value, hvalue, rfl⟩ := List.mem_map.mp hmem
    exact reads value hvalue
  have list := reads_list _ listed' each
  rwa [List.map_map, show Prod.snd ∘ (fun value : α => (spell value, value)) = id from rfl,
    List.map_id] at list

/-- A list of two tokens is read as the pair of their values. -/
theorem reads_pair {left : Reader α} {right : Reader β} {token' : Bytes} {value' : β}
    (first : Reads left token value) (second : Reads right token' value')
    (listed : Listed [token, token'] s) :
    Reads (readPair left right) (bracketed s) (value, value') := by
  have values : ∀ each ∈ [token, token'], IsValue each := by
    intro each hmem
    simp only [List.mem_cons, List.not_mem_nil, or_false] at hmem
    rcases hmem with rfl | rfl
    · exact first.isValue
    · exact second.isValue
  refine reads_atValue (.list listed values) fun rest stops => ?_
  rw [List.append_assoc, List.singleton_append]
  obtain ⟨before, tail, blank, stops, behind, split⟩ := listed.uncons closeBracket (by decide) rest
  have leads : Leads true [] := rfl
  have found : nextElement true ([] ++ (before ++ token ++ tail)) = .ok (some (token ++ tail)) :=
    nextElement_token leads blank first.isValue
  have taken := first.read_eq [] tail blank_nil stops
  rw [List.nil_append] at found taken
  cases behind with
  | last none => cases none
  | @more lead _ another leads' listed' =>
      obtain ⟨before', tail', blank', stops', behind', split'⟩ :=
        listed'.uncons closeBracket (by decide) rest
      have found' : nextElement false (lead ++ (before' ++ token' ++ tail')) =
          .ok (some (token' ++ tail')) := nextElement_token leads' blank' second.isValue
      have taken' := second.read_eq [] tail' blank_nil stops'
      rw [List.nil_append] at taken'
      cases behind' with
      | more some => exact absurd rfl some
      | last none blank'' =>
          rw [split'] at split found taken
          simp only [↓reduceIte, split, found, taken, found', taken', endList_close blank'',
            Except.mapError_ok, bind, Except.bind]
          rfl

/-- The bytes are a list of the values, with any white space around them. -/
inductive SpellsList (raws : List Raw) : Bytes → Prop
  | bracketed {s : Bytes} (listed : Listed (raws.map Raw.bytes) s)
      (values : ∀ raw ∈ raws, IsValue raw.bytes) : SpellsList raws (bracketed s)

theorem SpellsList.head? {raws : List Raw} (h : SpellsList raws token) :
    token.head? = some openBracket := by
  cases h with
  | bracketed => rfl

/-- A list of values that are kept is read as exactly these. -/
theorem SpellsList.reads {raws : List Raw} (h : SpellsList raws token) :
    Reads (readList readRaw) token raws := by
  cases h with
  | bracketed listed values =>
      exact reads_listed listed fun raw hmem => reads_raw (values raw hmem)

end BlogGateway.Json
