/-
Trees are read back.

A tree holds a value as a whole: texts, numbers, lists of trees and objects with trees under names.
What is read as a tree follows the grammar, so there is one lemma for each kind of value; a list
and an object are read from the trees in them, one level deeper.  The members of an object go to
their places by name, whatever order they come in.

The other way round, what has been read as a tree is a token of the grammar, and it is read as the
same tree wherever it stands.
-/
import BlogGateway.Proofs.Json.Filled
import BlogGateway.Proofs.Json.Numerals
import BlogGateway.Proofs.Json.Written

namespace BlogGateway.Json

open Ascii

variable {depth : Nat} {token s before rest : Bytes} {value : Value} {member : Member}
  {read : Reader Value} {sorted : List (String × Value)}

/-! ### Values that hold no others -/

theorem reads_tree_null : Reads (readValue depth) [0x6E, 0x75, 0x6C, 0x6C] .null := by
  unfold readValue
  exact reads_atValue .null fun rest _ => rfl

theorem reads_tree_boolean (value : Bool) :
    Reads (readValue depth) (writeBool value) (.boolean value) := by
  cases value with
  | true =>
      have spelled : writeBool true = [0x74, 0x72, 0x75, 0x65] := by decide
      rw [spelled]
      unfold readValue
      exact reads_atValue .true fun rest _ => rfl
  | false =>
      have spelled : writeBool false = [0x66, 0x61, 0x6C, 0x73, 0x65] := by decide
      rw [spelled]
      unfold readValue
      exact reads_atValue .false fun rest _ => rfl

theorem reads_tree_string {text : String} (spells : SpellsString text token) :
    Reads (readValue depth) token (.string text) := by
  cases spells with
  | quoted spells =>
      unfold readValue
      refine reads_atValue (.string (isContent_of_spellsChars spells)) fun rest _ => ?_
      rw [List.append_assoc, List.singleton_append]
      simp only [readText_of_spells spells]
      rfl

/-- A number begins with a sign or with a digit. -/
theorem begins_of_reads_anyNumber {b : UInt8} {t : Bytes} {number : Number} {wanted : String}
    (any : Reads (readAnyNumber wanted) (b :: t) number) : b = minus ∨ isDigit b := by
  have read_eq := any.read_eq [] [] blank_nil stops_nil
  obtain ⟨b', t', split, begins⟩ := any.isValue.begins
  obtain ⟨rfl, rfl⟩ := List.cons.inj split
  unfold readAnyNumber atValue at read_eq
  rw [List.append_nil, skipSpace_cons blank_nil begins.isSpace_eq_false] at read_eq
  dsimp only at read_eq
  split at read_eq
  · exact .inl ‹_›
  split at read_eq
  · exact .inr ‹_›
  · cases read_eq

theorem reads_tree_number {number : Number} (any : Reads (readAnyNumber "a number") token number) :
    Reads (readValue depth) token (.number number) := by
  obtain ⟨b, t, rfl, -⟩ := any.isValue.begins
  have begins := begins_of_reads_anyNumber any
  unfold readValue
  refine reads_atValue any.isValue fun rest stops => ?_
  have unlike (other : UInt8) (ne_minus : other ≠ minus) (no_digit : isDigit other = false) :
      b ≠ other := by
    rintro rfl
    rcases begins with rfl | digit
    · exact ne_minus rfl
    · exact absurd digit (Bool.eq_false_iff.mp no_digit)
  have number : (decide (b = minus) || isDigit b) = true := by simpa using begins
  have read_eq := any.read_eq [] rest blank_nil stops
  rw [List.nil_append, List.cons_append] at read_eq
  simp only [unlike lowerN (by decide) rfl, unlike lowerT (by decide) rfl,
    unlike lowerF (by decide) rfl, number, decide_false, Bool.or_false, Bool.false_eq_true,
    ↓reduceIte, read_eq]
  rfl

/-! ### Lists and objects -/

/-- A list is read from its elements, which are one level deeper. -/
theorem reads_tree_list (items : List (Bytes × Value)) (listed : Listed (items.map Prod.fst) s)
    (reads : ∀ item ∈ items, Reads (readValue (depth + 1)) item.1 item.2) :
    Reads (readValue (depth + 2)) (bracketed s) (.list (items.map Prod.snd)) := by
  unfold readValue
  refine reads_atValue (isValue_bracketed items listed reads) fun rest stops => ?_
  rw [List.append_assoc, List.singleton_append]
  obtain ⟨after, blank, ended⟩ := readElements_bracketed items listed reads rest
  have begins : openBracket ≠ lowerN ∧ openBracket ≠ lowerT ∧ openBracket ≠ lowerF ∧
      openBracket ≠ minus ∧ isDigit openBracket = false ∧ openBracket ≠ quote := by decide
  simp only [begins, decide_false, Bool.or_false, Bool.false_eq_true, ↓reduceIte, ended,
    endList_close blank, Except.mapError_ok, bind, Except.bind]
  rfl

/-- One member is put in its place, and the others behind it are read. -/
theorem readTreeMembers_cons {first : Bool} {lead : Bytes} (leads : Leads first lead)
    (blank : Blank before) (h : Reads read member.text.value value) (stops : Stops rest)
    (fuel : Nat) :
    readTreeMembers read (fuel + 1) first sorted (lead ++ (before ++ member.bytes ++ rest))
      = readTreeMembers read fuel false (Value.insertMember member.name value sorted) rest := by
  have split : before ++ member.bytes ++ rest
      = before ++ quote :: (member.text.key ++ quote :: (member.tail ++ rest)) := by
    simp [member.bytes_eq, quoted]
  rw [split, readTreeMembers]
  simp only [nextMember_quote leads blank, readText_of_spells member.spells, expectColon_tail,
    h.read_eq _ rest member.after stops, Except.mapError_ok, bind, Except.bind]

theorem readTreeMembers_close {first : Bool} (blank : Blank before) (fuel : Nat) :
    readTreeMembers read (fuel + 1) first sorted (before ++ closeBrace :: rest)
      = .ok (sorted, before ++ closeBrace :: rest) := by
  rw [readTreeMembers]
  simp only [nextMember_close blank, Except.mapError_ok, bind, Except.bind]
  rfl

/-- The members that are listed are put in their places, one after the other. -/
theorem readTreeMembers_of_listed {items : List (Member × Value)}
    (listed : Listed (items.map fun item => item.1.bytes) s) (some : items ≠ [])
    (reads : ∀ item ∈ items, Reads read item.1.text.value item.2) {fuel : Nat}
    (enough : items.length ≤ fuel) {first : Bool} {lead : Bytes} (leads : Leads first lead) :
    ∃ after, Blank after ∧
      readTreeMembers read (fuel + 1) first sorted (lead ++ (s ++ closeBrace :: rest))
        = .ok (items.foldl (fun sorted item => Value.insertMember item.1.name item.2 sorted) sorted,
            after ++ closeBrace :: rest) := by
  induction items generalizing s sorted fuel first lead with
  | nil => exact absurd rfl some
  | cons item items ih =>
      obtain ⟨fuel, rfl⟩ : ∃ left, fuel = left + 1 := ⟨fuel - 1, by simp at enough; omega⟩
      obtain ⟨before, tail, blank, stops, behind, split⟩ :=
        listed.uncons closeBrace (by decide) rest
      rw [split, readTreeMembers_cons leads blank (reads item (List.mem_cons_self ..)) stops]
      cases behind with
      | @last after none blank' =>
          obtain rfl := List.map_eq_nil_iff.mp none
          exact ⟨after, blank', readTreeMembers_close blank' fuel⟩
      | more some leads' listed' =>
          exact ih listed' (mt List.map_eq_nil_iff.mpr some)
            (fun item hmem => reads item (List.mem_cons_of_mem _ hmem))
            (Nat.le_of_succ_le_succ enough) leads'

/-- An object is read from its members, whose values are one level deeper. -/
theorem reads_tree_object (items : List (Member × Value))
    (listed : Listed (items.map fun item => item.1.bytes) s)
    (reads : ∀ item ∈ items, Reads (readValue (depth + 1)) item.1.text.value item.2) :
    Reads (readValue (depth + 2)) (braced s)
      (.ofMembers (items.map fun item => (item.1.name, item.2))) := by
  have listed' : Listed ((items.map Prod.fst).map Member.bytes) s := by
    rwa [List.map_map]
  have ended (rest : Bytes) : ∃ after, Blank after ∧
      readTreeMembers (readValue (depth + 1)) ((s ++ closeBrace :: rest).length + 1) true []
        (s ++ closeBrace :: rest)
        = .ok (items.foldl (fun sorted item => Value.insertMember item.1.name item.2 sorted) [],
            after ++ closeBrace :: rest) := by
    cases items with
    | nil =>
        cases listed with
        | nil blank => exact ⟨s, blank, readTreeMembers_close blank _⟩
    | cons item items =>
        have enough := length_le_of_members listed'
        have leads : Leads true [] := rfl
        refine readTreeMembers_of_listed listed (List.cons_ne_nil _ _) reads ?_ leads
        rw [List.length_map] at enough
        rw [List.length_append]
        exact Nat.le_add_right_of_le enough
  unfold readValue
  refine reads_atValue (isValue_braced listed') fun rest stops => ?_
  rw [List.append_assoc, List.singleton_append]
  obtain ⟨after, blank, ended⟩ := ended rest
  have begins : openBrace ≠ lowerN ∧ openBrace ≠ lowerT ∧ openBrace ≠ lowerF ∧
      openBrace ≠ minus ∧ isDigit openBrace = false ∧ openBrace ≠ quote ∧
      openBrace ≠ openBracket := by decide
  simp only [begins, decide_false, Bool.or_false, Bool.false_eq_true, ↓reduceIte, ended,
    endObject_close blank, Except.mapError_ok, bind, Except.bind, Value.ofMembers, List.foldl_map]
  rfl

/-! ### Written trees -/

theorem writeElements_eq (elements : List Value) :
    Value.writeElements false elements
      = (elements.map Value.write).flatMap (comma :: ·) ++ [closeBracket] := by
  induction elements with
  | nil => rw [Value.writeElements]; rfl
  | cons element elements ih =>
      rw [Value.writeElements, ih]
      simp

/-- A list is written with commas between its elements. -/
theorem write_list (elements : List Value) :
    (Value.list elements).write
      = bracketed ((elements.map Value.write).intersperse [comma]).flatten := by
  cases elements with
  | nil => rw [Value.write, Value.writeElements]; rfl
  | cons element elements =>
      rw [Value.write, Value.writeElements, writeElements_eq, List.map_cons, flatten_intersperse]
      simp [bracketed]

/-- A member as it is written. -/
def writeMember (member : String × Value) : Bytes :=
  writeText member.1 ++ colon :: member.2.write

theorem writeMembers_eq (members : List (String × Value)) :
    Value.writeMembers false members
      = (members.map writeMember).flatMap (comma :: ·) ++ [closeBrace] := by
  induction members with
  | nil => rw [Value.writeMembers]; rfl
  | cons member members ih =>
      rw [Value.writeMembers, ih]
      simp [writeMember]

/-- An object is written with commas between its members. -/
theorem write_object (members : List (String × Value)) :
    (Value.object members).write
      = braced ((members.map writeMember).intersperse [comma]).flatten := by
  cases members with
  | nil => rw [Value.write, Value.writeMembers]; rfl
  | cons member members =>
      rw [Value.write, Value.writeMembers, writeMembers_eq, List.map_cons, flatten_intersperse]
      simp [braced, writeMember]

/-- Written members are members, with the values that they are written with. -/
theorem exists_written {members : List (String × Value)}
    (reads : ∀ member ∈ members, Reads (readValue depth) member.2.write member.2) :
    ∃ items : List (Member × Value),
      (items.map fun item => item.1.bytes) = members.map writeMember ∧
      (items.map fun item => (item.1.name, item.2)) = members ∧
      ∀ item ∈ items, Reads (readValue depth) item.1.text.value item.2 := by
  induction members with
  | nil => exact ⟨[], rfl, rfl, by simp⟩
  | cons member members ih =>
      obtain ⟨own, others⟩ := List.forall_mem_cons.mp reads
      obtain ⟨items, written, named, each⟩ := ih others
      have bytes : (Member.written member.1 _ own.isValue).bytes = writeMember member :=
        Member.bytes_written own.isValue
      exact ⟨(.written member.1 _ own.isValue, member.2) :: items,
        congrArg₂ List.cons bytes written, congrArg (member :: ·) named,
        List.forall_mem_cons.mpr ⟨own, each⟩⟩

/-- The tree can be held with containers of so many levels: numbers are of 64 bits, and the members
of objects are in their places. -/
inductive Fits : Nat → Value → Prop
  | null {depth : Nat} : Fits depth .null
  | boolean {depth : Nat} (value : Bool) : Fits depth (.boolean value)
  | whole {depth : Nat} {number : Int} (low : -0x8000000000000000 ≤ number)
      (high : number ≤ 0xFFFFFFFFFFFFFFFF) : Fits depth (.number (.whole number))
  | string {depth : Nat} (text : String) : Fits depth (.string text)
  | list {depth : Nat} {elements : List Value}
      (fits : ∀ element ∈ elements, Fits (depth + 1) element) : Fits (depth + 2) (.list elements)
  | object {depth : Nat} {members : List (String × Value)}
      (placed : Value.ofMembers members = .object members)
      (fits : ∀ member ∈ members, Fits (depth + 1) member.2) : Fits (depth + 2) (.object members)

/-- **A tree that is written is read back.** -/
theorem Fits.reads_write (fits : Fits depth value) : Reads (readValue depth) value.write value := by
  induction fits with
  | null =>
      rw [Value.write]
      exact reads_tree_null
  | boolean value =>
      rw [Value.write]
      exact reads_tree_boolean value
  | whole low high =>
      rw [Value.write]
      exact reads_tree_number (reads_anyNumber_int low high "a number")
  | string text =>
      rw [Value.write]
      exact reads_tree_string (spellsString_write text)
  | @list depth elements fits ih =>
      have tokens : (elements.map fun element => (element.write, element)).map Prod.fst
          = elements.map Value.write := List.map_map ..
      have values : (elements.map fun element => (element.write, element)).map Prod.snd
          = elements := by
        rw [List.map_map]
        exact List.map_id elements
      have listed := listed_intersperse (elements.map Value.write)
      have reads : ∀ item ∈ elements.map fun element => (element.write, element),
          Reads (readValue (depth + 1)) item.1 item.2 := by
        intro item hmem
        obtain ⟨element, helement, rfl⟩ := List.mem_map.mp hmem
        exact ih element helement
      rw [write_list]
      rw [← tokens] at listed ⊢
      have list := reads_tree_list _ listed reads
      rwa [values] at list
  | @object depth members placed fits ih =>
      obtain ⟨items, written, named, each⟩ := exists_written ih
      have listed := listed_intersperse (members.map writeMember)
      rw [write_object]
      rw [← written] at listed ⊢
      have object := reads_tree_object items listed each
      rwa [named, placed] at object

/-! ### Trees that have been read -/

theorem takes_bool : Takes readBool fun value token => token = writeBool value := by
  refine takes_atValue fun b t value rest _ h => ?_
  split at h
  · subst_vars
    obtain ⟨rest', expected, made⟩ := Except.map_eq_ok_iff.mp (Except.mapError_eq_ok_iff.mp h)
    obtain ⟨rfl, rfl⟩ := Prod.mk.inj made
    exact ⟨_, rfl, by rw [eq_append_of_expectWord expected]; rfl⟩
  split at h
  · subst_vars
    obtain ⟨rest', expected, made⟩ := Except.map_eq_ok_iff.mp (Except.mapError_eq_ok_iff.mp h)
    obtain ⟨rfl, rfl⟩ := Prod.mk.inj made
    exact ⟨_, rfl, by rw [eq_append_of_expectWord expected]; rfl⟩
  · cases h

/-- Whatever is read as a tree with containers of so many levels is a token that is read as the
tree wherever it stands. -/
def ExactTrees (depth : Nat) : Prop :=
  Takes (readValue depth) fun value token => Reads (readValue depth) token value

/-- The members that have been read are listed up to the end of the object, and are put in their
places one after the other. -/
theorem listed_of_readTreeMembers {fuel : Nat} {first : Bool} {members : List (String × Value)}
    (takes : Takes read fun value token => Reads read token value)
    (h : readTreeMembers read fuel first sorted s = .ok (members, rest)) :
    ∃ after tail, ∃ items : List (Member × Value),
      rest = after ++ closeBrace :: tail ∧ Blank after ∧
      ListedUpTo closeBrace first (items.map fun item => item.1.bytes) tail s ∧
      (∀ item ∈ items, Reads read item.1.text.value item.2) ∧
      members = items.foldl
        (fun sorted item => Value.insertMember item.1.name item.2 sorted) sorted := by
  induction fuel generalizing first s sorted with
  | zero => cases h
  | succ fuel ih =>
      obtain ⟨next, found, h⟩ := Except.bind_eq_ok_iff.mp h
      have found := Except.mapError_eq_ok_iff.mp found
      cases next with
      | none =>
          obtain ⟨rfl, rfl⟩ := Prod.mk.inj (Except.ok.inj h)
          obtain ⟨before, tail, blank, rfl⟩ := of_nextMember_none found
          exact ⟨before, tail, [], rfl, blank, .nil blank, by simp, rfl⟩
      | some next =>
          obtain ⟨⟨key, behind⟩, named, h⟩ := Except.bind_eq_ok_iff.mp h
          obtain ⟨start, parted, h⟩ := Except.bind_eq_ok_iff.mp h
          obtain ⟨⟨value, behind'⟩, taken, readOthers⟩ := Except.bind_eq_ok_iff.mp h
          obtain ⟨after, token, blank, reads, split⟩ := takes start value _ taken
          obtain ⟨lead, before, member, leads, blank', rfl, rfl, rfl⟩ :=
            exists_member found (Except.mapError_eq_ok_iff.mp named)
              (Except.mapError_eq_ok_iff.mp parted) blank reads.isValue split
          obtain ⟨after', tail, items, rfl, blank'', listed, each, rfl⟩ := ih readOthers
          exact ⟨after', tail, (member, value) :: items, rfl, blank'', listed.cons leads blank',
            List.forall_mem_cons.mpr ⟨reads, each⟩, rfl⟩

/-- A tree is exact if the trees in its containers are, one level deeper. -/
theorem exactTrees_step (inner : ∀ outer, depth = outer + 2 → ExactTrees (outer + 1)) :
    ExactTrees depth := by
  unfold ExactTrees
  generalize spelled : (fun value token => Reads (readValue depth) token value) = Spelled
  unfold readValue
  refine takes_atValue fun b t value rest space h => ?_
  subst spelled
  split at h
  · subst_vars
    obtain ⟨rest', expected, made⟩ := Except.map_eq_ok_iff.mp (Except.mapError_eq_ok_iff.mp h)
    obtain ⟨rfl, rfl⟩ := Prod.mk.inj made
    exact ⟨_, reads_tree_null, by rw [eq_append_of_expectWord expected]; rfl⟩
  split at h
  · rename_i word
    obtain ⟨⟨truth, rest'⟩, read, made⟩ := Except.map_eq_ok_iff.mp h
    obtain ⟨rfl, rfl⟩ := Prod.mk.inj made
    obtain ⟨token, rfl, split⟩ := takes_bool.here space read
    exact ⟨_, reads_tree_boolean truth, split⟩
  split at h
  · rename_i word
    obtain ⟨⟨number, rest'⟩, read, made⟩ := Except.map_eq_ok_iff.mp h
    obtain ⟨rfl, rfl⟩ := Prod.mk.inj made
    obtain ⟨token, ⟨reads, -⟩, split⟩ := (takes_anyNumber "a number").here space read
    exact ⟨token, reads_tree_number reads, split⟩
  split at h
  · subst_vars
    obtain ⟨⟨text, rest'⟩, read, made⟩ :=
      Except.map_eq_ok_iff.mp (Except.mapError_eq_ok_iff.mp h)
    obtain ⟨rfl, rfl⟩ := Prod.mk.inj made
    obtain ⟨spelled, rfl, spells⟩ := spells_of_readText read
    exact ⟨quoted spelled, reads_tree_string (.quoted spells), by simp [quoted]⟩
  split at h
  · subst_vars
    split at h
    · cases h
    · cases h
    · rename_i outer
      obtain ⟨⟨values, behind⟩, read, h⟩ := Except.bind_eq_ok_iff.mp h
      obtain ⟨tail, ended, h⟩ := Except.bind_eq_ok_iff.mp h
      obtain ⟨rfl, rfl⟩ := Prod.mk.inj (Except.ok.inj h)
      obtain ⟨tokens, content, listed, each, split⟩ := bracketed_of_readElements
        (inner outer rfl) read (Except.mapError_eq_ok_iff.mp ended)
      obtain ⟨items, rfl, rfl, reads⟩ := exists_items each
      exact ⟨bracketed content, reads_tree_list items listed reads, split⟩
  split at h
  · subst_vars
    split at h
    · cases h
    · cases h
    · rename_i outer
      obtain ⟨⟨members, behind⟩, read, h⟩ := Except.bind_eq_ok_iff.mp h
      obtain ⟨tail, ended, h⟩ := Except.bind_eq_ok_iff.mp h
      obtain ⟨rfl, rfl⟩ := Prod.mk.inj (Except.ok.inj h)
      obtain ⟨after, tail', items, rfl, blank, upTo, each, rfl⟩ :=
        listed_of_readTreeMembers (inner outer rfl) read
      obtain ⟨content, listed, rfl⟩ := upTo.exists_listed
      rw [endObject_close blank, Except.mapError_ok] at ended
      obtain rfl := Except.ok.inj ended
      refine ⟨braced content, ?_, by simp [braced]⟩
      have object := reads_tree_object items listed each
      simpa only [Value.ofMembers, List.foldl_map] using object
  · cases h

/-- **What is read as a tree is a token, and the token alone says which tree.** -/
theorem exactTrees (depth : Nat) : ExactTrees depth := by
  induction depth with
  | zero => exact exactTrees_step fun outer same => by omega
  | succ depth ih =>
      refine exactTrees_step fun outer same => ?_
      obtain rfl : depth = outer + 1 := by omega
      exact ih

end BlogGateway.Json
