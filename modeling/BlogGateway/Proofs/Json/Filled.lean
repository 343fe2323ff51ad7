/-
A record that has been read was there.

`Records` and `Positions` read a record from every object and every array that holds its values.
Here a record has been read, and what stood there is one of these.

From an object the members were taken one after the other, so that the induction goes from the
closing brace back: there the slots are finished, and each member in front fills the slot of its
field or none.  Sorting the members by the fields then gives the values and what is left over.
-/
import BlogGateway.Proofs.Json.Positions
import BlogGateway.Proofs.Json.Records
import BlogGateway.Proofs.Json.Taken

namespace BlogGateway.Json

open Ascii

variable {α : Type} {fields : List Field} {field : Field} {read : Reader α}
  {Spelled : α → Bytes → Prop} {members : List Member} {member : Member} {tokens : List Bytes}
  {s rest token before lead : Bytes} {key : String} {first : Bool}

/-- The bytes hold the values of the fields, by name or by place. -/
inductive SpellsRecord (fields : List Field) (values : Values fields) : Bytes → Prop
  | object {listed extras members : List Member} {s : Bytes} (holds : Holds fields listed values)
      (foreign : ∀ member ∈ extras, member.name ∉ fields.map Field.name)
      (arranged : members.Perm (listed ++ extras)) (spelled : Listed (members.map Member.bytes) s) :
      SpellsRecord fields values (braced s)
  | array {tokens : List Bytes} {s : Bytes} (enumerates : Enumerates fields tokens values)
      (listed : Listed tokens s) : SpellsRecord fields values (bracketed s)

/-! ### Members -/

/-- There is no other member where the object ends. -/
theorem of_nextMember_none (h : nextMember first s = .ok none) :
    ∃ before tail, Blank before ∧ s = before ++ closeBrace :: tail := by
  unfold nextMember at h
  split at h
  · cases h
  · rename_i b tail skipped
    obtain ⟨before, blank, rfl⟩ := exists_blank_cons skipped
    split at h
    · subst_vars
      exact ⟨before, tail, blank, rfl⟩
    · exfalso
      split at h
      · split at h
        · cases h
        · split at h
          · cases h
          · split at h <;> cases h
      · split at h
        · split at h <;> cases h
        · cases h

/-- Another member begins with a quote, behind a comma unless it is the first. -/
theorem of_nextMember_some {next : Bytes} (h : nextMember first s = .ok (some next)) :
    ∃ lead before, Leads first lead ∧ Blank before ∧ s = lead ++ (before ++ quote :: next) := by
  unfold nextMember at h
  split at h
  · cases h
  · rename_i b tail skipped
    obtain ⟨before, blank, rfl⟩ := exists_blank_cons skipped
    split at h
    · cases h
    · split at h
      · rename_i separated
        simp only [Bool.and_eq_true, decide_eq_true_eq, Bool.not_eq_true'] at separated
        obtain ⟨rfl, rfl⟩ := separated
        split at h
        · cases h
        · rename_i c next' skipped'
          split at h
          · subst_vars
            obtain rfl := Option.some.inj (Except.ok.inj h)
            obtain ⟨before', blank', rfl⟩ := exists_blank_cons skipped'
            exact ⟨before ++ [comma], before', ⟨before, blank, rfl⟩, blank', by simp⟩
          · split at h <;> cases h
      · split at h
        · rename_i first
          subst first
          split at h
          · subst_vars
            obtain rfl := Option.some.inj (Except.ok.inj h)
            exact ⟨[], before, rfl, blank, rfl⟩
          · cases h
        · cases h

theorem of_expectColon (h : expectColon s = .ok rest) :
    ∃ before, Blank before ∧ s = before ++ colon :: rest := by
  unfold expectColon at h
  split at h
  · cases h
  · rename_i b t skipped
    split at h
    · subst_vars
      obtain rfl := Except.ok.inj h
      exact exists_blank_cons skipped
    · cases h

/-- A name, a colon and a value are a member. -/
theorem exists_member {next behind : Bytes} (found : nextMember first s = .ok (some next))
    (named : readText next = .ok (key, behind)) {start : Bytes}
    (parted : expectColon behind = .ok start) {after : Bytes} (blank : Blank after)
    (isValue : IsValue token) (split : start = after ++ token ++ rest) :
    ∃ lead before, ∃ member : Member, Leads first lead ∧ Blank before ∧ member.name = key ∧
      member.text.value = token ∧ s = lead ++ (before ++ member.bytes ++ rest) := by
  obtain ⟨lead, before, leads, blank', rfl⟩ := of_nextMember_some found
  obtain ⟨spelled, rfl, spells⟩ := spells_of_readText named
  obtain ⟨space, blank'', rfl⟩ := of_expectColon parted
  let member : Member := ⟨key, ⟨spelled, space, after, token⟩, spells, blank'', blank, isValue⟩
  refine ⟨lead, before, member, leads, blank', rfl, rfl, ?_⟩
  simp [member, split, Member.bytes_eq, Member.tail, quoted]

/-! ### Objects -/

/-- Each field reads its spellings, and they alone. -/
def Field.Exact (field : Field) : Prop :=
  Takes field.read fun value token => Reads field.read token value

/-- Where the slots are finished no member is to come. -/
theorem fills_of_finish {slots : Slots fields} {values : Values fields}
    (h : Slots.finish fields slots = .ok values) : Fills fields slots [] values := by
  induction fields with
  | nil => trivial
  | cons field fields ih =>
      obtain ⟨slot, slots⟩ := slots
      cases slot with
      | some value =>
          obtain ⟨others, finished, rfl⟩ := Except.map_eq_ok_iff.mp h
          exact ⟨.filled value, ih finished⟩
      | none =>
          cases default : field.ifAbsent with
          | some value =>
              simp only [Slots.finish, default] at h
              obtain ⟨others, finished, rfl⟩ := Except.map_eq_ok_iff.mp h
              exact ⟨.absent default, ih finished⟩
          | none =>
              simp only [Slots.finish, default] at h
              cases h

/-- A member without a field is in the way of none. -/
theorem fills_of_foreign {slots : Slots fields} {values : Values fields}
    (foreign : Slots.readMember member.name fields slots = none)
    (fills : Fills fields slots members values) :
    Fills fields slots (member :: members) values := by
  induction fields generalizing members with
  | nil => trivial
  | cons field fields ih =>
      obtain ⟨slot, slots⟩ := slots
      obtain ⟨value, values⟩ := values
      obtain ⟨becomes, fills⟩ := fills
      by_cases same : member.name = field.name
      · rw [Slots.readMember, if_pos same] at foreign
        cases foreign
      · rw [Slots.readMember, if_neg same, Option.map_eq_none_iff] at foreign
        refine ⟨?_, ?_⟩
        · rwa [called_cons_of_ne same]
        · rw [others_cons_of_ne same]
          exact ih foreign fills

/-- A member with a field has a value that is read, and fills the slot of the field. -/
theorem fills_of_readMember {slots slots' : Slots fields} (each : ∀ field ∈ fields, field.Exact)
    {read : Reader (Slots fields)} (found : Slots.readMember key fields slots = some read)
    (h : read s = .ok (slots', rest)) :
    ∃ start after token, expectColon s = .ok start ∧ Blank after ∧ IsValue token ∧
      start = after ++ token ++ rest ∧
      ∀ {member : Member} {members : List Member} {values : Values fields}, member.name = key →
        member.text.value = token → Fills fields slots' members values →
        Fills fields slots (member :: members) values := by
  induction fields generalizing s with
  | nil => cases found
  | cons field fields ih =>
      obtain ⟨slot, slots⟩ := slots
      obtain ⟨slot', slots'⟩ := slots'
      by_cases same : key = field.name
      · rw [Slots.readMember, if_pos same] at found
        obtain rfl := Option.some.inj found
        cases slot with
        | some value => cases h
        | none =>
            obtain ⟨start, parted, h⟩ := Except.bind_eq_ok_iff.mp h
            obtain ⟨⟨value, behind⟩, taken, made⟩ := Except.bind_eq_ok_iff.mp h
            obtain ⟨filled, rfl⟩ := Prod.mk.inj (Except.ok.inj made)
            obtain ⟨rfl, rfl⟩ := Prod.mk.inj filled
            obtain ⟨after, token, blank, reads, split⟩ :=
              each field (List.mem_cons_self ..) start value _ taken
            refine ⟨start, after, token, Except.mapError_eq_ok_iff.mp parted, blank, reads.isValue,
              split, fun {member members values} named own fills => ?_⟩
            obtain ⟨value', values⟩ := values
            obtain ⟨becomes, fills⟩ := fills
            have same := named.trans same
            refine ⟨?_, by rwa [others_cons_of_eq same]⟩
            rw [called_cons_of_eq same]
            generalize called field.name members = left at becomes
            cases becomes with
            | filled => exact .read (own ▸ reads)
      · rw [Slots.readMember, if_neg same, Option.map_eq_some_iff] at found
        obtain ⟨readOther, found, rfl⟩ := found
        obtain ⟨⟨others, behind⟩, taken, made⟩ := Except.bind_eq_ok_iff.mp h
        obtain ⟨filled, rfl⟩ := Prod.mk.inj (Except.ok.inj made)
        obtain ⟨rfl, rfl⟩ := Prod.mk.inj filled
        obtain ⟨start, after, token, parted, blank, isValue, split, fill⟩ :=
          ih (fun field hmem => each field (List.mem_cons_of_mem _ hmem)) found taken
        refine ⟨start, after, token, parted, blank, isValue, split,
          fun {member members values} named own fills => ?_⟩
        obtain ⟨value, values⟩ := values
        obtain ⟨becomes, fills⟩ := fills
        have other : member.name ≠ field.name := fun h => same (named.symm.trans h)
        refine ⟨by rwa [called_cons_of_ne other], ?_⟩
        rw [others_cons_of_ne other]
        exact fill named own fills

/-- Members are listed up to the end of the object, and fill the slots; `rest` is where the end
is. -/
def FillsUpTo (fields : List Field) (first : Bool) (slots slots' : Slots fields) (s rest : Bytes) :
    Prop :=
  ∃ after tail members, rest = after ++ closeBrace :: tail ∧ Blank after ∧
    ListedUpTo closeBrace first (members.map Member.bytes) tail s ∧
    ∀ {values : Values fields}, Slots.finish fields slots' = .ok values →
      Fills fields slots members values

theorem fillsUpTo_close {slots : Slots fields} (found : nextMember first s = .ok none) :
    FillsUpTo fields first slots slots s s := by
  obtain ⟨before, tail, blank, rfl⟩ := of_nextMember_none found
  exact ⟨before, tail, [], rfl, blank, .nil blank, fills_of_finish⟩

/-- A member is put in front of the others. -/
theorem FillsUpTo.cons {slots next slots' : Slots fields} {behind : Bytes}
    (others : FillsUpTo fields false next slots' behind rest) (leads : Leads first lead)
    (blank : Blank before)
    (fill : ∀ {members : List Member} {values : Values fields},
      Fills fields next members values → Fills fields slots (member :: members) values) :
    FillsUpTo fields first slots slots' (lead ++ (before ++ member.bytes ++ behind)) rest := by
  obtain ⟨after, tail, members, rfl, blank', listed, fills⟩ := others
  exact ⟨after, tail, member :: members, rfl, blank', listed.cons leads blank,
    fun finished => fill (fills finished)⟩

/-- The members that have been read fill the slots. -/
theorem fillsUpTo_of_readMembers {slots slots' : Slots fields} {fuel : Nat}
    (each : ∀ field ∈ fields, field.Exact)
    (h : readMembers fields fuel first slots s = .ok (slots', rest)) :
    FillsUpTo fields first slots slots' s rest := by
  induction fuel generalizing first s slots with
  | zero => cases h
  | succ fuel ih =>
      obtain ⟨next, found, h⟩ := Except.bind_eq_ok_iff.mp h
      have found := Except.mapError_eq_ok_iff.mp found
      cases next with
      | none =>
          obtain ⟨rfl, rfl⟩ := Prod.mk.inj (Except.ok.inj h)
          exact fillsUpTo_close found
      | some next =>
          obtain ⟨⟨key, behind⟩, named, h⟩ := Except.bind_eq_ok_iff.mp h
          have named := Except.mapError_eq_ok_iff.mp named
          dsimp only at h
          split at h
          · rename_i read known
            obtain ⟨⟨filled, behind'⟩, taken, goesOn⟩ := Except.bind_eq_ok_iff.mp h
            obtain ⟨start, after, token, parted, blank, isValue, split, fill⟩ :=
              fills_of_readMember each known taken
            obtain ⟨lead, before, member, leads, blank', own, value, rfl⟩ :=
              exists_member found named parted blank isValue split
            exact (ih goesOn).cons leads blank' (fill own value)
          · rename_i foreign
            obtain ⟨start, parted, h⟩ := Except.bind_eq_ok_iff.mp h
            obtain ⟨behind', skipped, goesOn⟩ := Except.bind_eq_ok_iff.mp h
            have parted := Except.mapError_eq_ok_iff.mp parted
            obtain ⟨after, token, blank, isValue, split⟩ :=
              isValue_of_skipValue (Except.mapError_eq_ok_iff.mp skipped)
            obtain ⟨lead, before, member, leads, blank', rfl, rfl, rfl⟩ :=
              exists_member found named parted blank isValue split
            exact (ih goesOn).cons leads blank' (fills_of_foreign foreign)

/-- Members that fill the empty slots hold the values, in some arrangement and among others. -/
theorem holds_of_fills {values : Values fields}
    (fills : Fills fields (Slots.empty fields) members values) :
    ∃ listed extras, Holds fields listed values ∧
      (∀ member ∈ extras, member.name ∉ fields.map Field.name) ∧
      members.Perm (listed ++ extras) := by
  induction fields generalizing members with
  | nil => exact ⟨[], members, .nil, by simp, .refl _⟩
  | cons field fields ih =>
      obtain ⟨value, values⟩ := values
      obtain ⟨becomes, fills⟩ := fills
      obtain ⟨listed, extras, holds, foreign, arranged⟩ := ih fills
      have sorted : members.Perm (called field.name members ++ others field.name members) := by
        have apart :=
          List.filter_append_perm (fun member => decide (member.name = field.name)) members
        simpa [called, others] using apart.symm
      have foreign' : ∀ member ∈ extras, member.name ∉ (field :: fields).map Field.name := by
        intro member hmem known
        rcases List.mem_cons.mp known with same | known
        · have left : member ∈ others field.name members :=
            arranged.mem_iff.mpr (List.mem_append_right _ hmem)
          exact absurd same (by simpa using List.of_mem_filter left)
        · exact foreign member hmem known
      generalize hcalled : called field.name members = own at becomes sorted
      cases becomes with
      | @read member _ reads =>
          have named : member.name = field.name := by
            have hmem : member ∈ called field.name members := hcalled ▸ List.mem_cons_self ..
            simpa using List.of_mem_filter hmem
          exact ⟨member :: listed, extras, .member named reads holds, foreign',
            sorted.trans (arranged.cons member)⟩
      | absent default =>
          exact ⟨listed, extras, .absent default holds, foreign', sorted.trans arranged⟩

/-- Members that hold the values of several fields are those of the first and those of the
others. -/
theorem Holds.gives {Spelled : Bytes → Prop} {omissible : Prop} {value : field.Val}
    {values : Values fields} (holds : Holds (field :: fields) members (value, values))
    (spelled : ∀ {token}, Reads field.read token value → Spelled token)
    (default : field.ifAbsent = some value → omissible) :
    ∃ own others, members = own ++ others ∧ Gives field.name Spelled omissible own ∧
      Holds fields others values := by
  cases holds with
  | member named reads rest => exact ⟨[_], _, rfl, .given named (spelled reads), rest⟩
  | absent own rest => exact ⟨[], _, rfl, .omitted (default own), rest⟩

theorem Holds.eq_nil {values : Values []} (holds : Holds [] members values) : members = [] := by
  cases holds with
  | nil => rfl

/-! ### Arrays -/

/-- Where an array ends there are no others to come. -/
theorem eq_nil_of_nextElement_none {tail : Bytes} (found : nextElement first s = .ok none)
    (listed : ListedUpTo closeBracket false tokens tail s) : tokens = [] := by
  obtain ⟨before, left, blank, split⟩ := of_nextElement_none found
  have closed : skipSpace s = closeBracket :: left := split ▸ skipSpace_cons blank rfl
  cases listed with
  | listed leads listed =>
      by_contra some
      rw [if_neg some] at leads
      obtain ⟨space, blank', rfl⟩ := leads
      rw [List.append_assoc, List.singleton_append, skipSpace_cons blank' rfl] at closed
      exact absurd (List.cons.inj closed).1 (by decide)

theorem ListedUpTo.of_nil {tail : Bytes} (listed : ListedUpTo closeBracket false [] tail s) :
    ListedUpTo closeBracket first [] tail s := by
  cases listed with
  | listed leads listed => exact .listed leads listed

/-- The elements that have been read are listed up to the end of the array, and are the values. -/
theorem enumerates_of_readPositions {wanted : String} {index : Nat} {values : Values fields}
    {tail : Bytes} (each : ∀ field ∈ fields, field.Exact)
    (h : readPositions wanted fields index s = .ok (values, rest))
    (ended : endList rest = .ok tail) :
    ∃ tokens, Enumerates fields tokens values ∧
      ListedUpTo closeBracket (index == 0) tokens tail s := by
  induction fields generalizing s index with
  | nil =>
      obtain ⟨rfl, rfl⟩ := Prod.mk.inj (Except.ok.inj h)
      obtain ⟨after, blank, rfl⟩ := of_endList ended
      exact ⟨[], .nil, .nil blank⟩
  | cons field fields ih =>
      have others : ∀ field ∈ fields, field.Exact := fun field hmem =>
        each field (List.mem_cons_of_mem _ hmem)
      obtain ⟨next, found, h⟩ := Except.bind_eq_ok_iff.mp h
      have found := Except.mapError_eq_ok_iff.mp found
      cases next with
      | none =>
          dsimp only at h
          split at h
          · rename_i value default
            obtain ⟨⟨values', behind⟩, read, made⟩ := Except.bind_eq_ok_iff.mp h
            obtain ⟨rfl, rfl⟩ := Prod.mk.inj (Except.ok.inj made)
            obtain ⟨tokens, enumerates, listed⟩ := ih others read
            obtain rfl := eq_nil_of_nextElement_none found listed
            exact ⟨[], .short default enumerates, listed.of_nil⟩
          · cases h
      | some next =>
          obtain ⟨⟨value, behind⟩, read, h⟩ := Except.bind_eq_ok_iff.mp h
          obtain ⟨⟨values', last⟩, readOthers, made⟩ := Except.bind_eq_ok_iff.mp h
          obtain ⟨rfl, rfl⟩ := Prod.mk.inj (Except.ok.inj made)
          obtain ⟨lead, before, token, leads, blank, reads, rfl⟩ :=
            Takes.element (each field (List.mem_cons_self ..)) found read
          obtain ⟨tokens, enumerates, listed⟩ := ih others readOthers
          exact ⟨token :: tokens, .element reads enumerates, listed.cons leads blank⟩

/-! ### Records -/

/-- **A record that has been read was an object or an array that holds its values.** -/
theorem takes_record (name : String) (each : ∀ field ∈ fields, field.Exact) :
    Takes (readRecord name fields) (SpellsRecord fields) := by
  refine takes_atValue fun b t values rest _ h => ?_
  split at h
  · subst_vars
    obtain ⟨⟨values', behind⟩, read, h⟩ := Except.bind_eq_ok_iff.mp h
    obtain ⟨tail, ended, h⟩ := Except.bind_eq_ok_iff.mp h
    obtain ⟨rfl, rfl⟩ := Prod.mk.inj (Except.ok.inj h)
    obtain ⟨tokens, enumerates, upTo⟩ :=
      enumerates_of_readPositions each read (Except.mapError_eq_ok_iff.mp ended)
    obtain ⟨content, listed, rfl⟩ := upTo.exists_listed
    exact ⟨bracketed content, .array enumerates listed, by simp [bracketed]⟩
  split at h
  · subst_vars
    obtain ⟨⟨slots, behind⟩, read, h⟩ := Except.bind_eq_ok_iff.mp h
    obtain ⟨values', finished, h⟩ := Except.bind_eq_ok_iff.mp h
    obtain ⟨tail, ended, h⟩ := Except.bind_eq_ok_iff.mp h
    obtain ⟨rfl, rfl⟩ := Prod.mk.inj (Except.ok.inj h)
    obtain ⟨after, tail', members, rfl, blank, upTo, fills⟩ := fillsUpTo_of_readMembers each read
    obtain ⟨content, listed, rfl⟩ := upTo.exists_listed
    rw [endObject_close blank, Except.mapError_ok] at ended
    obtain rfl := Except.ok.inj ended
    obtain ⟨own, extras, holds, foreign, arranged⟩ := holds_of_fills (fills finished)
    exact ⟨braced content, .object holds foreign arranged listed, by simp [braced]⟩
  · cases h

end BlogGateway.Json
