/-
An operation is decoded however it is spelled.

An account signs the bytes of an operation, but it sends the operation as JSON, which may be
spelled in many ways.  `Spelled` says which ways there are, and says nothing about reading.  A
body is an object or an array.  The object has its members in any order and among others, and
need not have a member for a field whose value is zero; the array has the fields in order and
may stop when all that are left are zero.  The names of members and all strings may be spelled
with any escapes, and white space may stand wherever JSON allows it.

Whichever way is taken, what is decoded is the operation that was meant, and so the bytes that
the signature is checked against are always the same.
-/
import BlogGateway.Operation.Basic
import BlogGateway.Proofs.Json.Numbers
import BlogGateway.Proofs.Json.Positions
import BlogGateway.Proofs.Json.Written

namespace BlogGateway.Operation

open Json Ascii

/-! ### How an operation may be spelled -/

/-- The bytes spell the value of a field. -/
inductive FieldType.Spelled : (type : FieldType) → type.Val → Bytes → Prop
  | text {text : String} {token : Bytes} (spells : SpellsString text token) :
      Spelled .text text token
  | number (value : UInt32) : Spelled .number value (Bytes.ofText (toString value.toNat))
  | flag (value : Bool) : Spelled .flag value (writeBool value)
  | uuid {id : Uuid} {text : String} {token : Bytes} (means : Uuid.ofText? text = some id)
      (spells : SpellsString text token) : Spelled .uuid id token

/-- The members are those of the fields, one for each; a field whose value is zero may have
none. -/
inductive HasMembers : (specs : List FieldSpec) → FieldValues specs → List Member → Prop
  | nil : HasMembers [] () []
  | cons {spec : FieldSpec} {specs : List FieldSpec} {value : spec.type.Val}
      {values : FieldValues specs} {own members : List Member}
      (gives : Gives spec.name (spec.type.Spelled value) (value = spec.type.zero) own)
      (rest : HasMembers specs values members) :
      HasMembers (spec :: specs) (value, values) (own ++ members)

/-- All fields are zero. -/
def zeros : (specs : List FieldSpec) → FieldValues specs
  | [] => ()
  | spec :: specs => (spec.type.zero, zeros specs)

/-- The elements are the values of the first fields, in their order, and those of the others are
zero. -/
inductive HasElements : (specs : List FieldSpec) → FieldValues specs → List Bytes → Prop
  | zeros (specs : List FieldSpec) : HasElements specs (zeros specs) []
  | cons {spec : FieldSpec} {specs : List FieldSpec} {value : spec.type.Val}
      {values : FieldValues specs} {token : Bytes} {tokens : List Bytes}
      (spelled : spec.type.Spelled value token) (rest : HasElements specs values tokens) :
      HasElements (spec :: specs) (value, values) (token :: tokens)

/-- The bytes spell the body, as an object or as an array.  An object may have members of other
names, which hold any JSON values that are texts. -/
inductive SpellsBody (kind : Kind) (body : Body kind) : Bytes → Prop
  | object {listed extras members : List Member} {s : Bytes}
      (has : HasMembers (layout kind).fields ((layout kind).toValues body) listed)
      (foreign : ∀ member ∈ extras, member.name ∉ (layout kind).fields.map FieldSpec.name)
      (texts : ∀ member ∈ extras, Bytes.IsText member.text.value)
      (arranged : members.Perm (listed ++ extras))
      (spelled : Listed (members.map Member.bytes) s) : SpellsBody kind body (braced s)
  | array {tokens : List Bytes} {s : Bytes}
      (has : HasElements (layout kind).fields ((layout kind).toValues body) tokens)
      (spelled : Listed tokens s) : SpellsBody kind body (bracketed s)

/-- The bytes are the list of the tag and the body. -/
inductive SpellsPair (kind : Kind) (body : Body kind) : Bytes → Prop
  | bracketed {tag token s : Bytes} (tagged : SpellsString kind.tag tag)
      (spells : SpellsBody kind body token) (listed : Listed [tag, token] s) :
      SpellsPair kind body (bracketed s)

/-- The text is the pair of tag and body, with any white space around it. -/
inductive Spelled (kind : Kind) (body : Body kind) : Bytes → Prop
  | text {token before after : Bytes} (pair : SpellsPair kind body token)
      (blank : Blank before) (blank' : Blank after) : Spelled kind body (before ++ token ++ after)

/-! ### Fields -/

theorem FieldType.Spelled.reads {type : FieldType} {value : type.Val} {token : Bytes}
    (spelled : type.Spelled value token) : Reads type.read token value := by
  cases spelled with
  | text spells => exact spells.reads "a string"
  | number value => exact reads_uint32 value
  | flag value => exact reads_writeBool value
  | uuid means spells =>
      refine (spells.reads "a formatted UUID string").andThen fun rest => ?_
      simp only [means]
      rfl

theorem FieldType.Spelled.isText {type : FieldType} {value : type.Val} {token : Bytes}
    (spelled : type.Spelled value token) : Bytes.IsText token := by
  cases spelled with
  | text spells => exact spells.isText
  | number value => exact Bytes.isText_ofText _
  | flag value => exact Bytes.isText_ofText _
  | uuid means spells => exact spells.isText

section Fields

variable {specs : List FieldSpec} {values : FieldValues specs} {members : List Member}
  {tokens : List Bytes}

theorem HasMembers.holds (has : HasMembers specs values members) :
    Holds (specs.map FieldSpec.field) members values := by
  induction has with
  | nil => exact .nil
  | @cons spec specs value values own members gives rest ih =>
      have gives' : Gives spec.field.name (spec.type.Spelled value) (value = spec.type.zero) own :=
        gives
      refine gives'.holds (fun token spelled => spelled.reads) (fun zero => ?_) ih
      rw [zero]
      rfl

theorem HasMembers.isText (has : HasMembers specs values members) :
    ∀ member ∈ members, Bytes.IsText member.text.value := by
  induction has with
  | nil => exact fun _ hmem => nomatch hmem
  | cons gives rest ih =>
      intro member hmem
      rcases List.mem_append.mp hmem with hmem | hmem
      · cases gives with
        | given named spelled =>
            obtain rfl := List.mem_singleton.mp hmem
            exact spelled.isText
        | omitted => cases hmem
      · exact ih member hmem

theorem enumerates_zeros (specs : List FieldSpec) :
    Enumerates (specs.map FieldSpec.field) [] (zeros specs) := by
  induction specs with
  | nil => exact .nil
  | cons spec specs ih => exact .short rfl ih

theorem HasElements.enumerates (has : HasElements specs values tokens) :
    Enumerates (specs.map FieldSpec.field) tokens values := by
  induction has with
  | zeros specs => exact enumerates_zeros specs
  | cons spelled rest ih => exact .element spelled.reads ih

theorem HasElements.isText (has : HasElements specs values tokens) :
    ∀ token ∈ tokens, Bytes.IsText token := by
  induction has with
  | zeros => exact fun _ hmem => nomatch hmem
  | cons spelled rest ih =>
      intro token hmem
      rcases List.mem_cons.mp hmem with rfl | hmem
      · exact spelled.isText
      · exact ih token hmem

end Fields

/-! ### Bodies -/

section Bodies

variable {kind : Kind} {body : Body kind} {token text : Bytes}

theorem distinct_fields (kind : Kind) :
    (((layout kind).fields.map FieldSpec.field).map Field.name).Nodup := by
  cases kind <;> decide

/-- A body is read from every record that has its values. -/
theorem reads_body
    (reads : Reads (readRecord (layout kind).name ((layout kind).fields.map FieldSpec.field))
      token ((layout kind).toValues body)) : Reads (readBody kind) token body := by
  refine reads.andThen fun rest => ?_
  show Except.ok ((layout kind).ofValues ((layout kind).toValues body), rest) = _
  rw [(layout kind).ofValues_toValues]

theorem SpellsBody.reads (spells : SpellsBody kind body token) :
    Reads (readBody kind) token body := by
  cases spells with
  | object has foreign texts arranged spelled =>
      refine reads_body (reads_record _ (distinct_fields kind) has.holds ?_ arranged spelled)
      rwa [List.map_map]
  | array has spelled => exact reads_body (reads_positions _ has.enumerates spelled)

theorem SpellsBody.isText (spells : SpellsBody kind body token) : Bytes.IsText token := by
  cases spells with
  | object has foreign texts arranged spelled =>
      refine isText_braced (isText_listed spelled fun token hmem => ?_)
      obtain ⟨member, hmember, rfl⟩ := List.mem_map.mp hmem
      rcases List.mem_append.mp (arranged.mem_iff.mp hmember) with own | extra
      · exact Member.isText (has.isText member own)
      · exact Member.isText (texts member extra)
  | array has spelled => exact isText_bracketed (isText_listed spelled has.isText)

/-! ### Operations -/

theorem ofTag?_tag (kind : Kind) : Kind.ofTag? kind.tag = some kind := by
  cases kind <;> rfl

theorem ofTag?_eq_none {tag : String} (other : ∀ kind : Kind, kind.tag ≠ tag) :
    Kind.ofTag? tag = none := by
  refine List.find?_eq_none.mpr fun kind _ => ?_
  simpa using other kind

/-- A tag and a body make up a known operation, however they are spelled. -/
theorem ofParts_known {tag value : Raw}
    (tagged : Reads (readString "a string") tag.bytes kind.tag)
    (reads : Reads (readBody kind) value.bytes body) :
    ofParts [tag, value] = .ok (.known kind body) := by
  simp only [ofParts, tagged.raw, Except.mapError_ok, bind, Except.bind, ofTag?_tag, reads.raw,
    Except.map]

/-- The pair is read as two values that make up the operation. -/
theorem SpellsPair.reads_parts (spells : SpellsPair kind body token) :
    ∃ parts, Reads (readList readRaw) token parts ∧ ofParts parts = .ok (.known kind body) := by
  cases spells with
  | bracketed tagged spells listed =>
      obtain ⟨tag, rfl⟩ := exists_raw tagged.isText
      obtain ⟨value, rfl⟩ := exists_raw spells.isText
      have tags := tagged.reads "a string"
      have values : ∀ raw ∈ [tag, value], IsValue raw.bytes := by
        intro raw hmem
        rcases List.mem_pair.mp hmem with rfl | rfl
        · exact tags.isValue
        · exact spells.reads.isValue
      have listed' : Listed ([tag, value].map Raw.bytes) _ := listed
      exact ⟨[tag, value], (SpellsList.bracketed listed' values).reads,
        ofParts_known tags spells.reads⟩

theorem Spelled.decode_eq (spelled : Spelled kind body text) :
    decode text = .ok (.known kind body) := by
  cases spelled with
  | text pair blank blank' =>
      obtain ⟨parts, reads, made⟩ := pair.reads_parts
      unfold decode
      rw [reads.whole blank blank']
      exact made

/--
**An operation is decoded as what it means, however it is spelled.**

The body may be an object, with its members in any order and among others and without those that
are zero, or an array that stops early; strings may be escaped, and white space may stand around
every token.  All these texts are decoded to one operation, whose signed bytes are those of the
body that was meant.
-/
theorem decode_of_spelled (spelled : Spelled kind body text) :
    decode text = .ok (.known kind body) ∧
    (∀ text', Spelled kind body text' → decode text' = decode text) ∧
    ∀ operation, decode text = .ok operation →
      operation.encode = .ok (Wire.varint kind.code ++ encodeBody kind body) := by
  refine ⟨spelled.decode_eq, fun text' spelled' => ?_, fun operation decoded => ?_⟩
  · rw [spelled.decode_eq, spelled'.decode_eq]
  · rw [spelled.decode_eq] at decoded
    obtain rfl := Except.ok.inj decoded
    rfl

end Bodies

/-! ### Two texts for one operation -/

/-- The administrator no longer vouches for alice. -/
private def distrust : SetAccountTrustedAdmin := ⟨"admin", "alice", false⟩

/-- An object with another member, in another order than that of the fields, with an escape in a
name and without the flag, which is zero. -/
private def distrustObject : Bytes :=
  Bytes.ofText ("[\"set_account_trusted_admin\",\x7b\"why\":null,\"blog_account\":\"alice\","
    ++ "\"\\u0061ccount\": \"admin\"\x7d] ")

/-- An array that stops before the flag. -/
private def distrustArray : Bytes :=
  Bytes.ofText "[\"set_account_trusted_admin\",[\"admin\",\"alice\"]]"

/-- The name of the account, with the number of its first letter. -/
private def accountKey : Bytes :=
  [backslash, lowerU, 0x30, 0x30, 0x36, 0x31] ++ (Bytes.ofText "ccount").flatMap escapeByte

private theorem spells_accountKey : Spells "account" accountKey := by
  have first : SpellsChar (Char.ofNat 0x61) [backslash, lowerU, 0x30, 0x30, 0x36, 0x31] :=
    .unit (by decide) (by decide) (by decide)
  have same : "account".toList = Char.ofNat 0x61 :: "ccount".toList := by decide
  rw [Spells, same]
  exact .cons first (spells_write "ccount")

private def accountMember : Member where
  name := "account"
  text := ⟨accountKey, [], [0x20], writeText "admin"⟩
  spells := spells_accountKey
  before := blank_nil
  after := by decide
  isValue := (reads_writeText "admin" "a string").isValue

private def blogAccountMember : Member :=
  .written "blog_account" _ (reads_writeText "alice" "a string").isValue

private def whyMember : Member := .written "why" _ .null

private theorem spelled_distrustObject :
    Spelled .setAccountTrustedAdmin distrust distrustObject := by
  have has : HasMembers (layout .setAccountTrustedAdmin).fields
      ((layout .setAccountTrustedAdmin).toValues distrust)
      ([accountMember] ++ ([blogAccountMember] ++ ([] ++ []))) :=
    .cons (.given rfl (.text (spellsString_write "admin")))
      (.cons (.given rfl (.text (spellsString_write "alice"))) (.cons (.omitted rfl) .nil))
  have foreign : ∀ member ∈ [whyMember],
      member.name ∉ (layout .setAccountTrustedAdmin).fields.map FieldSpec.name := by
    intro member hmem
    obtain rfl := List.mem_singleton.mp hmem
    show "why" ∉ _
    decide
  have texts : ∀ member ∈ [whyMember], Bytes.IsText member.text.value := by
    intro member hmem
    obtain rfl := List.mem_singleton.mp hmem
    exact Bytes.isText_ofText "null"
  have arranged : [whyMember, blogAccountMember, accountMember].Perm
      ([accountMember] ++ ([blogAccountMember] ++ ([] ++ [])) ++ [whyMember]) :=
    ([accountMember, blogAccountMember, whyMember].reverse_perm :)
  have body : SpellsBody .setAccountTrustedAdmin distrust _ :=
    .object has foreign texts arranged (listed_intersperse _)
  have same : distrustObject = [] ++ bracketed ([writeText "set_account_trusted_admin",
      braced (([whyMember, blogAccountMember, accountMember].map Member.bytes).intersperse
        [comma]).flatten].intersperse [comma]).flatten ++ [0x20] := by
    decide
  rw [same]
  exact .text (.bracketed (spellsString_write _) body (listed_intersperse _)) blank_nil (by decide)

private theorem spelled_distrustArray :
    Spelled .setAccountTrustedAdmin distrust distrustArray := by
  have has : HasElements (layout .setAccountTrustedAdmin).fields
      ((layout .setAccountTrustedAdmin).toValues distrust)
      [writeText "admin", writeText "alice"] :=
    .cons (.text (spellsString_write "admin"))
      (.cons (.text (spellsString_write "alice")) (.zeros _))
  have body : SpellsBody .setAccountTrustedAdmin distrust _ := .array has (listed_intersperse _)
  have same : distrustArray = [] ++ bracketed ([writeText "set_account_trusted_admin",
      bracketed ([writeText "admin", writeText "alice"].intersperse [comma]).flatten].intersperse
        [comma]).flatten ++ [] := by
    decide
  rw [same]
  exact .text (.bracketed (spellsString_write _) body (listed_intersperse _)) blank_nil blank_nil

/-- Both texts are decoded to the same operation. -/
theorem distrust_decoded_alike :
    Spelled .setAccountTrustedAdmin distrust distrustObject ∧
    Spelled .setAccountTrustedAdmin distrust distrustArray ∧
    decode distrustObject = .ok (.known .setAccountTrustedAdmin distrust) ∧
    decode distrustArray = decode distrustObject := by
  obtain ⟨decoded, alike, -⟩ := decode_of_spelled spelled_distrustObject
  exact ⟨spelled_distrustObject, spelled_distrustArray, decoded, alike _ spelled_distrustArray⟩

end BlogGateway.Operation
