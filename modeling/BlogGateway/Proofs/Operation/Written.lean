/-
Operations are read back from what is written.

A body is written as an object with a member for each field, in the order of the layout, and an
operation as the list of its tag and its body.  That is one of the ways in which an operation may
be spelled, so it is read as any other; a tag that names no kind leaves the body as it is.
-/
import BlogGateway.Proofs.Operation.Spelling
import BlogGateway.Proofs.Uuid

namespace BlogGateway.Operation

open Json Ascii

/-! ### Fields -/

theorem FieldType.spelled_write (type : FieldType) (value : type.Val) :
    type.Spelled value (type.write value) := by
  cases type with
  | text => exact .text (spellsString_write value)
  | number => exact .number value
  | flag => exact .flag value
  | uuid => exact .uuid (Uuid.ofText?_text value) (spellsString_write _)

/-- A field is read back as the value that was written. -/
theorem FieldType.reads_write (type : FieldType) (value : type.Val) :
    Reads type.read (type.write value) value :=
  (type.spelled_write value).reads

/-- The members of a body as they are written. -/
def members : (specs : List FieldSpec) → FieldValues specs → List Member
  | [], _ => []
  | spec :: specs, (value, values) =>
    .written spec.name (spec.type.write value) (spec.type.reads_write value).isValue
      :: members specs values

theorem hasMembers_members (specs : List FieldSpec) (values : FieldValues specs) :
    HasMembers specs values (members specs values) := by
  induction specs with
  | nil => exact .nil
  | cons spec specs ih =>
      obtain ⟨value, values⟩ := values
      exact .cons (.given rfl (spec.type.spelled_write value)) (ih values)

/-- Behind the first member every other stands behind a comma. -/
theorem writeFields_false (specs : List FieldSpec) (values : FieldValues specs) :
    writeFields false specs values
      = ((members specs values).map Member.bytes).flatMap (comma :: ·) ++ [closeBrace] := by
  induction specs with
  | nil => rfl
  | cons spec specs ih =>
      obtain ⟨value, values⟩ := values
      simp only [writeFields, members, ih values, List.map_cons, List.flatMap_cons,
        Member.bytes_written]
      simp

theorem writeFields_true (specs : List FieldSpec) (values : FieldValues specs) :
    writeFields true specs values
      = (((members specs values).map Member.bytes).intersperse [comma]).flatten
        ++ [closeBrace] := by
  cases specs with
  | nil => rfl
  | cons spec specs =>
      obtain ⟨value, values⟩ := values
      rw [members, List.map_cons, flatten_intersperse, Member.bytes_written]
      simp [writeFields, writeFields_false]

/-! ### Bodies -/

theorem writeBody_eq (kind : Kind) (body : Body kind) : writeBody kind body
    = braced (((members _ ((layout kind).toValues body)).map Member.bytes).intersperse
        [comma]).flatten := by
  unfold writeBody
  rw [writeFields_true]
  rfl

/-- A body is written as one of the objects that spell it. -/
theorem spellsBody_write (kind : Kind) (body : Body kind) :
    SpellsBody kind body (writeBody kind body) := by
  have has := hasMembers_members _ ((layout kind).toValues body)
  have arranged := List.Perm.of_eq (List.append_nil (members _ ((layout kind).toValues body))).symm
  rw [writeBody_eq]
  exact .object has (by simp) (by simp) arranged (listed_intersperse _)

/-! ### Operations -/

/-- A text can spell the operation: an unknown one has a tag that names no kind, and a body that
is JSON. -/
def Spellable : Operation → Prop
  | .known _ _ => True
  | .unknown tag body => (∀ kind : Kind, kind.tag ≠ tag) ∧ IsValue body.bytes

theorem ofParts_unknown {tag body : Raw} {name : String}
    (tagged : Reads (readString "a string") tag.bytes name)
    (other : ∀ kind : Kind, kind.tag ≠ name) :
    ofParts [tag, body] = .ok (.unknown name body) := by
  simp only [ofParts, tagged.raw, Except.mapError_ok, bind, Except.bind, ofTag?_eq_none other]

/-- A known operation is written as one of the pairs that spell it. -/
theorem spellsPair_write (kind : Kind) (body : Body kind) :
    SpellsPair kind body (write (.known kind body)) := by
  have pair : SpellsPair kind body
      (bracketed ([writeText kind.tag, writeBody kind body].intersperse [comma]).flatten) :=
    .bracketed (spellsString_write kind.tag) (spellsBody_write kind body) (listed_intersperse _)
  simpa [bracketed, write, tag] using pair

/-- An operation is written as two values that make it up again. -/
theorem reads_parts {operation : Operation} (spellable : operation.Spellable) :
    ∃ parts, Reads (readList readRaw) operation.write parts ∧ ofParts parts = .ok operation := by
  cases operation with
  | known kind body => exact (spellsPair_write kind body).reads_parts
  | unknown name body =>
      obtain ⟨other, value⟩ := spellable
      obtain ⟨tag, spelled⟩ := exists_raw (isText_writeText name)
      have tagged : Reads (readString "a string") tag.bytes name := spelled ▸ reads_writeText _ _
      have values : ∀ raw ∈ [tag, body], IsValue raw.bytes := by
        intro raw hmem
        rcases List.mem_pair.mp hmem with rfl | rfl
        · exact tagged.isValue
        · exact value
      have reads := (SpellsList.bracketed (listed_intersperse _) values).reads
      refine ⟨[tag, body], ?_, ofParts_unknown tagged other⟩
      simpa [bracketed, spelled, write, Operation.tag] using reads

/-- An operation that is written is decoded to itself. -/
theorem decode_of_spellable {operation : Operation} (spellable : operation.Spellable) :
    decode operation.write = .ok operation := by
  obtain ⟨parts, reads, made⟩ := reads_parts spellable
  unfold decode
  rw [reads.alone]
  exact made

/-- Inside a longer text, too, an operation that is written is read as itself. -/
theorem reads_write {operation : Operation} (spellable : operation.Spellable) :
    Reads read operation.write operation := by
  obtain ⟨parts, reads, made⟩ := reads_parts spellable
  refine reads.andThen fun rest => ?_
  simp only [made]
  rfl

end BlogGateway.Operation
