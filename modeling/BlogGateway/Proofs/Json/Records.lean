/-
Records are read from objects, however their members stand.

An object may list the members of a record in any order, leave out those whose fields have a
value of their own, and hold members that no field names.  `Holds` says what the object must
hold; a record is then read from every arrangement of such members and of others.

Reading takes one member after the other, so the members that are still to come are what
carries the induction: with the slots that are filled already they make up the values.
-/
import BlogGateway.Json.Record
import BlogGateway.Proofs.Except
import BlogGateway.Proofs.Json.Strings

namespace BlogGateway.Json

open Ascii

/-! ### Members -/

/-- A member of an object, with the name that its spelling stands for. -/
structure Member where
  name : String
  text : MemberText
  spells : Spells name text.key
  before : Blank text.before
  after : Blank text.after
  isValue : IsValue text.value

namespace Member

/-- The bytes of a member. -/
def bytes (member : Member) : Bytes := member.text.bytes

/-- What stands behind the name. -/
def tail (member : Member) : Bytes :=
  member.text.before ++ colon :: member.text.after ++ member.text.value

theorem bytes_eq (member : Member) : member.bytes = quoted member.text.key ++ member.tail := by
  simp [bytes, MemberText.bytes, tail]

theorem bytes_ne_nil (member : Member) : member.bytes ≠ [] := by
  rw [bytes_eq]
  exact List.cons_ne_nil quote _

theorem named (member : Member) : member.text.Named :=
  ⟨isContent_of_spellsChars member.spells, member.before, member.after⟩

/-- A member as it is written, without white space. -/
def written (name : String) (value : Bytes) (isValue : IsValue value) : Member where
  name
  text := ⟨(Bytes.ofText name).flatMap escapeByte, [], [], value⟩
  spells := spells_write name
  before := blank_nil
  after := blank_nil
  isValue

theorem bytes_written {name : String} {value : Bytes} (isValue : IsValue value) :
    (written name value isValue).bytes = writeText name ++ colon :: value := by
  simp [bytes, MemberText.bytes, written, writeText, quoted]

end Member

variable {member : Member} {members listed extras : List Member} {s before rest : Bytes}

theorem nextMember_close {first : Bool} (blank : Blank before) :
    nextMember first (before ++ closeBrace :: s) = .ok none := by
  unfold nextMember
  rw [skipSpace_cons blank rfl]
  rfl

theorem endObject_close (blank : Blank before) : endObject (before ++ closeBrace :: s) = .ok s := by
  unfold endObject
  rw [skipSpace_cons blank rfl]
  rfl

/-- A member is gone to as far as the quote before its name. -/
theorem nextMember_quote {first : Bool} {lead : Bytes} (leads : Leads first lead)
    (blank : Blank before) :
    nextMember first (lead ++ (before ++ quote :: s)) = .ok (some s) := by
  unfold nextMember
  cases first with
  | true =>
      obtain rfl : lead = [] := leads
      rw [List.nil_append, skipSpace_cons blank rfl]
      rfl
  | false =>
      obtain ⟨space, blank', rfl⟩ : ∃ space, Blank space ∧ lead = space ++ [comma] := leads
      rw [List.append_assoc, List.singleton_append, skipSpace_cons blank' rfl]
      dsimp only
      rw [if_neg (by decide), if_pos (by decide), skipSpace_cons blank rfl]
      rfl

theorem expectColon_tail (member : Member) :
    expectColon (member.tail ++ rest) = .ok (member.text.after ++ member.text.value ++ rest) := by
  unfold expectColon Member.tail
  rw [List.append_assoc, List.append_assoc, List.cons_append, skipSpace_cons member.before rfl,
    List.append_assoc]
  rfl

theorem skipValue_blank (blank : Blank before) : skipValue (before ++ s) = skipValue s :=
  scan_blank trivial blank

/-! ### Slots -/

/-- What is in the slot of a field in the end, with the members of its name that are still to
come. -/
inductive Becomes (field : Field) : Option field.Val → List Member → field.Val → Prop
  | filled (value : field.Val) : Becomes field (some value) [] value
  | read {member : Member} {value : field.Val} (reads : Reads field.read member.text.value value) :
      Becomes field none [member] value
  | absent {value : field.Val} (default : field.ifAbsent = some value) :
      Becomes field none [] value

/-- The members that have a name. -/
def called (name : String) (members : List Member) : List Member :=
  members.filter (·.name = name)

/-- The members that have another name. -/
def others (name : String) (members : List Member) : List Member :=
  members.filter (·.name ≠ name)

section Names

variable {name : String}

theorem called_cons_of_eq (same : member.name = name) :
    called name (member :: members) = member :: called name members :=
  List.filter_cons_of_pos (by simpa using same)

theorem called_cons_of_ne (other : member.name ≠ name) :
    called name (member :: members) = called name members :=
  List.filter_cons_of_neg (by simpa using other)

theorem others_cons_of_eq (same : member.name = name) :
    others name (member :: members) = others name members :=
  List.filter_cons_of_neg (by simpa using same)

theorem others_cons_of_ne (other : member.name ≠ name) :
    others name (member :: members) = member :: others name members :=
  List.filter_cons_of_pos (by simpa using other)

theorem called_perm (name : String) (arranged : members.Perm listed) :
    (called name members).Perm (called name listed) :=
  arranged.filter _

theorem others_perm (name : String) (arranged : members.Perm listed) :
    (others name members).Perm (others name listed) :=
  arranged.filter _

theorem called_eq_nil (foreign : ∀ member ∈ members, member.name ≠ name) :
    called name members = [] := by
  refine List.filter_eq_nil_iff.mpr fun member hmem => ?_
  simpa using foreign member hmem

theorem others_eq_self (foreign : ∀ member ∈ members, member.name ≠ name) :
    others name members = members := by
  refine List.filter_eq_self.mpr fun member hmem => ?_
  simpa using foreign member hmem

end Names

/-- The slots with the members that are still to come make up the values. -/
def Fills : (fields : List Field) → Slots fields → List Member → Values fields → Prop
  | [], _, _, _ => True
  | field :: fields, (slot, slots), members, (value, values) =>
    Becomes field slot (called field.name members) value ∧
      Fills fields slots (others field.name members) values

/-- A member is read into its slot, or crossed when it has none. -/
theorem readMember_of_fills {fields : List Field} {slots : Slots fields} {values : Values fields}
    (fills : Fills fields slots (member :: members) values) :
    (Slots.readMember member.name fields slots = none ∧ Fills fields slots members values) ∨
      ∃ read slots', Slots.readMember member.name fields slots = some read ∧
        Fills fields slots' members values ∧
        ∀ rest, Stops rest → read (member.tail ++ rest) = .ok (slots', rest) := by
  induction fields generalizing members with
  | nil => exact .inl ⟨rfl, trivial⟩
  | cons field fields ih =>
      obtain ⟨slot, slots⟩ := slots
      obtain ⟨value, values⟩ := values
      obtain ⟨becomes, fills⟩ := fills
      -- the first field of the name takes the member, and the other fields do not see it
      by_cases same : member.name = field.name
      · rw [called_cons_of_eq same] at becomes
        rw [others_cons_of_eq same] at fills
        -- an empty slot and no other member of the name: nothing else fills with a member to come
        generalize none_left : called field.name members = left at becomes
        cases becomes with
        | read reads =>
            right
            refine ⟨_, (some value, slots), if_pos same, ⟨?_, fills⟩, fun rest stops => ?_⟩
            · rw [none_left]
              exact .filled value
            · simp only [expectColon_tail, Except.mapError_ok, bind, Except.bind,
                reads.read_eq _ rest member.after stops]
              rfl
      · rw [called_cons_of_ne same] at becomes
        rw [others_cons_of_ne same] at fills
        have passes (slots : Slots fields) : Slots.readMember member.name (field :: fields)
            (slot, slots) = (Slots.readMember member.name fields slots).map _ := if_neg same
        rcases ih fills with ⟨crossed, fills'⟩ | ⟨read, slots', found, fills', read_eq⟩
        · left
          exact ⟨by rw [passes, crossed]; rfl, becomes, fills'⟩
        · right
          refine ⟨_, (slot, slots'), by rw [passes, found]; rfl, ⟨becomes, fills'⟩, ?_⟩
          intro rest stops
          simp only [read_eq rest stops, bind, Except.bind]
          rfl

/-- When no member is left, the values are there. -/
theorem finish_of_fills {fields : List Field} {slots : Slots fields} {values : Values fields}
    (fills : Fills fields slots [] values) : Slots.finish fields slots = .ok values := by
  induction fields with
  | nil => rfl
  | cons field fields ih =>
      obtain ⟨slot, slots⟩ := slots
      obtain ⟨value, values⟩ := values
      obtain ⟨becomes, fills⟩ := fills
      have finished := ih fills
      cases becomes with
      | filled => simp only [Slots.finish, finished, Except.map]
      | absent default => simp only [Slots.finish, default, finished, Except.map]

/-! ### Objects -/

/-- One member is read or crossed, and the others behind it. -/
theorem readMembers_cons {fields : List Field} {slots : Slots fields} {values : Values fields}
    {first : Bool} {lead : Bytes} (fills : Fills fields slots (member :: members) values)
    (leads : Leads first lead) (blank : Blank before) (stops : Stops rest) (fuel : Nat) :
    ∃ slots', Fills fields slots' members values ∧
      readMembers fields (fuel + 1) first slots (lead ++ (before ++ member.bytes ++ rest))
        = readMembers fields fuel false slots' rest := by
  have split : before ++ member.bytes ++ rest
      = before ++ quote :: (member.text.key ++ quote :: (member.tail ++ rest)) := by
    simp [member.bytes_eq, quoted]
  rw [split, readMembers]
  simp only [nextMember_quote leads blank, readText_of_spells member.spells, Except.mapError_ok,
    bind, Except.bind]
  rcases readMember_of_fills fills with ⟨crossed, fills'⟩ | ⟨read, slots', found, fills', read_eq⟩
  · refine ⟨slots, fills', ?_⟩
    simp only [crossed, expectColon_tail, List.append_assoc, Except.mapError_ok,
      skipValue_blank member.after, skipValue_of_isValue member.isValue stops]
  · refine ⟨slots', fills', ?_⟩
    simp only [found, read_eq rest stops]

/-- The members end at the closing brace. -/
theorem readMembers_close {fields : List Field} {slots : Slots fields} {first : Bool}
    (blank : Blank before) (fuel : Nat) :
    readMembers fields (fuel + 1) first slots (before ++ closeBrace :: rest)
      = .ok (slots, before ++ closeBrace :: rest) := by
  rw [readMembers]
  simp only [nextMember_close blank, Except.mapError_ok, bind, Except.bind]
  rfl

/-- The members that are listed fill the slots. -/
theorem readMembers_of_listed {fields : List Field} {slots : Slots fields} {values : Values fields}
    (listed : Listed (members.map Member.bytes) s) (some : members ≠ [])
    (fills : Fills fields slots members values) {fuel : Nat}
    (enough : members.length ≤ fuel) {first : Bool} {lead : Bytes} (leads : Leads first lead) :
    ∃ after slots', Blank after ∧ Fills fields slots' [] values ∧
      readMembers fields (fuel + 1) first slots (lead ++ (s ++ closeBrace :: rest))
        = .ok (slots', after ++ closeBrace :: rest) := by
  induction members generalizing s slots fuel first lead with
  | nil => exact absurd rfl some
  | cons member members ih =>
      obtain ⟨fuel, rfl⟩ : ∃ left, fuel = left + 1 := ⟨fuel - 1, by simp at enough; omega⟩
      obtain ⟨before, tail, blank, stops, behind, split⟩ :=
        listed.uncons closeBrace (by decide) rest
      obtain ⟨slots', fills', read_eq⟩ := readMembers_cons fills leads blank stops (fuel + 1)
      rw [split, read_eq]
      cases behind with
      | @last after none blank' =>
          obtain rfl := List.map_eq_nil_iff.mp none
          exact ⟨after, slots', blank', fills', readMembers_close blank' fuel⟩
      | more some leads' listed' =>
          exact ih listed' (mt List.map_eq_nil_iff.mpr some) fills'
            (Nat.le_of_succ_le_succ enough) leads'

/-- An object of members is a value. -/
theorem isValue_braced (listed : Listed (members.map Member.bytes) s) : IsValue (braced s) := by
  have listed' : Listed ((members.map Member.text).map MemberText.bytes) s := by
    rwa [List.map_map]
  refine .object listed' (fun text hmem => ?_) fun text hmem => ?_ <;>
    obtain ⟨member, -, rfl⟩ := List.mem_map.mp hmem
  · exact member.named
  · exact member.isValue

/-- The bytes of an object are at least as many as its members. -/
theorem length_le_of_members (listed : Listed (members.map Member.bytes) s) :
    members.length ≤ s.length := by
  have enough := listed.length_le fun token hmem => by
    obtain ⟨member, -, rfl⟩ := List.mem_map.mp hmem
    exact member.bytes_ne_nil
  rwa [List.length_map] at enough

theorem reads_fills {fields : List Field} {values : Values fields}
    (listed : Listed (members.map Member.bytes) s)
    (fills : Fills fields (Slots.empty fields) members values) (name : String) :
    Reads (readRecord name fields) (braced s) values := by
  refine reads_atValue (isValue_braced listed) fun rest stops => ?_
  have ended : ∃ after slots, Blank after ∧ Fills fields slots [] values ∧
      readMembers fields ((s ++ closeBrace :: rest).length + 1) true (Slots.empty fields)
        (s ++ closeBrace :: rest) = .ok (slots, after ++ closeBrace :: rest) := by
    cases members with
    | nil =>
        cases listed with
        | nil blank => exact ⟨s, _, blank, fills, readMembers_close blank _⟩
    | cons member members =>
        have leads : Leads true [] := rfl
        refine readMembers_of_listed listed (List.cons_ne_nil _ _) fills ?_ leads
        rw [List.length_append]
        exact Nat.le_add_right_of_le (length_le_of_members listed)
  obtain ⟨after, slots, blank, fills', ended⟩ := ended
  have ne : openBrace ≠ openBracket := by decide
  rw [List.append_assoc, List.singleton_append]
  simp only [ne, ↓reduceIte, ended, finish_of_fills fills', endObject_close blank,
    Except.mapError_ok, bind, Except.bind]
  rfl

/-! ### Arrangements -/

/-- The members hold the values, in the order of the fields; a field whose value is the one that
it has by default may be without a member. -/
inductive Holds : (fields : List Field) → List Member → Values fields → Prop
  | nil : Holds [] [] ()
  | member {field : Field} {fields : List Field} {member : Member} {members : List Member}
      {value : field.Val} {values : Values fields} (named : member.name = field.name)
      (reads : Reads field.read member.text.value value) (rest : Holds fields members values) :
      Holds (field :: fields) (member :: members) (value, values)
  | absent {field : Field} {fields : List Field} {members : List Member} {value : field.Val}
      {values : Values fields} (default : field.ifAbsent = some value)
      (rest : Holds fields members values) : Holds (field :: fields) members (value, values)

theorem Holds.name_mem {fields : List Field} {values : Values fields}
    (holds : Holds fields listed values) :
    ∀ member ∈ listed, member.name ∈ fields.map Field.name := by
  induction holds with
  | nil => simp
  | member named reads rest ih =>
      intro other hmem
      rcases List.mem_cons.mp hmem with rfl | hmem
      · exact List.mem_cons.mpr (.inl named)
      · exact List.mem_cons_of_mem _ (ih other hmem)
  | absent default rest ih => exact fun other hmem => List.mem_cons_of_mem _ (ih other hmem)

/-- What is held fills the empty slots, in whatever order and with members of other names. -/
theorem fills_of_holds {fields : List Field} {values : Values fields}
    (holds : Holds fields listed values) (distinct : (fields.map Field.name).Nodup)
    (foreign : ∀ member ∈ extras, member.name ∉ fields.map Field.name)
    (arranged : members.Perm (listed ++ extras)) :
    Fills fields (Slots.empty fields) members values := by
  induction holds generalizing members with
  | nil => trivial
  | @member field fields held listed value values named reads rest ih =>
      obtain ⟨unlike, distinct⟩ := List.nodup_cons.mp distinct
      have unnamed : ∀ member ∈ listed ++ extras, member.name ≠ field.name := by
        intro member hmem same
        rcases List.mem_append.mp hmem with hmem | hmem
        · exact unlike (same ▸ rest.name_mem member hmem)
        · exact foreign member hmem (List.mem_cons.mpr (.inl same))
      -- sorting by name undoes the arrangement: one member here, all others for the fields behind
      have first : (called field.name members).Perm [held] := by
        have own := called_perm field.name arranged
        rwa [List.cons_append, called_cons_of_eq named, called_eq_nil unnamed] at own
      have left : (others field.name members).Perm (listed ++ extras) := by
        have own := others_perm field.name arranged
        rwa [List.cons_append, others_cons_of_eq named, others_eq_self unnamed] at own
      refine ⟨?_, ih distinct (fun member hmem h => foreign member hmem (.tail _ h)) left⟩
      rw [List.perm_singleton.mp first]
      exact .read reads
  | @absent field fields listed value values default rest ih =>
      obtain ⟨unlike, distinct⟩ := List.nodup_cons.mp distinct
      have unnamed : ∀ member ∈ members, member.name ≠ field.name := by
        intro member hmem same
        rcases List.mem_append.mp (arranged.mem_iff.mp hmem) with hmem | hmem
        · exact unlike (same ▸ rest.name_mem member hmem)
        · exact foreign member hmem (List.mem_cons.mpr (.inl same))
      refine ⟨?_, ih distinct (fun member hmem h => foreign member hmem (.tail _ h)) ?_⟩
      · rw [called_eq_nil unnamed]
        exact .absent default
      · rwa [others_eq_self unnamed]

/-- **A record is read from every object that holds its values**, however the members are
arranged and whatever members there are besides. -/
theorem reads_record {fields : List Field} {values : Values fields} (name : String)
    (distinct : (fields.map Field.name).Nodup) (holds : Holds fields listed values)
    (foreign : ∀ member ∈ extras, member.name ∉ fields.map Field.name)
    (arranged : members.Perm (listed ++ extras)) (spelled : Listed (members.map Member.bytes) s) :
    Reads (readRecord name fields) (braced s) values :=
  reads_fills spelled (fills_of_holds holds distinct foreign arranged) name

/-- A record is read from the members of its own values. -/
theorem reads_holds {fields : List Field} {values : Values fields} (name : String)
    (distinct : (fields.map Field.name).Nodup) (holds : Holds fields listed values)
    (spelled : Listed (listed.map Member.bytes) s) :
    Reads (readRecord name fields) (braced s) values := by
  have foreign : ∀ member ∈ ([] : List Member), member.name ∉ fields.map Field.name := by simp
  exact reads_record name distinct holds foreign (by rw [List.append_nil]) spelled

/-- The members that a field has: one whose value is spelled as it should be, or none if the value
goes without saying. -/
inductive Gives (name : String) (Spelled : Bytes → Prop) (omissible : Prop) : List Member → Prop
  | given {member : Member} (named : member.name = name) (spelled : Spelled member.text.value) :
      Gives name Spelled omissible [member]
  | omitted (h : omissible) : Gives name Spelled omissible []

/-- Members of the first field stand before those of the others. -/
theorem Gives.holds {field : Field} {fields : List Field} {Spelled : Bytes → Prop}
    {omissible : Prop} {value : field.Val} {values : Values fields}
    (gives : Gives field.name Spelled omissible members)
    (reads : ∀ token, Spelled token → Reads field.read token value)
    (default : omissible → field.ifAbsent = some value) (rest : Holds fields listed values) :
    Holds (field :: fields) (members ++ listed) (value, values) := by
  cases gives with
  | given named spelled => exact .member named (reads _ spelled) rest
  | omitted h => exact .absent (default h) rest

end BlogGateway.Json
