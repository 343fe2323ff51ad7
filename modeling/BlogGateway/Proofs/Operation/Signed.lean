/-
What is signed is what is serialized.

An operation leaves the gateway in two forms: as JSON, whose members follow from the layout of
its kind, and as signed bytes, whose items are listed kind by kind.  Nobody could tell from
either form alone that the other has a field more, or two of them the other way round; both
would still be read back and both would still tell operations apart.

So a layout is given signed bytes of its own, field by field, and the bytes that are listed are
proved to be those.  From there on only types of fields are looked at: as JSON a field is a
string, a truth value or a number, and which of the three it is decides how it is signed.
-/
import BlogGateway.Operation.Basic
import Mathlib.Data.List.Forall2

namespace BlogGateway.Operation

open Json

/-! ### Fields -/

/-- The value of a field in the signed bytes. -/
def FieldType.encode : (type : FieldType) → type.Val → Bytes
  | .text, (value : String) => Wire.text value
  | .number, (value : UInt32) => Wire.uint32 value
  | .flag, (value : Bool) => Wire.flag value
  | .uuid, (value : Uuid) => Wire.text value.text

/-- The fields of a layout in the signed bytes. -/
def encodeFields : (specs : List FieldSpec) → FieldValues specs → Bytes
  | [], _ => []
  | spec :: specs, (value, values) => spec.type.encode value ++ encodeFields specs values

/-- The items of every kind are the fields of its layout. -/
theorem encodeBody_eq_encodeFields (kind : Kind) (body : Body kind) :
    encodeBody kind body = encodeFields (layout kind).fields ((layout kind).toValues body) := by
  cases kind <;> rfl

/-! ### Members -/

/-- The value of a field as a JSON tree. -/
def FieldType.tree : (type : FieldType) → type.Val → Value
  | .text, (value : String) => .string value
  | .number, (value : UInt32) => .ofNat value.toNat
  | .flag, (value : Bool) => .boolean value
  | .uuid, (value : Uuid) => .string value.text

/-- The members of a body as JSON trees. -/
def memberTrees : (specs : List FieldSpec) → FieldValues specs → List (String × Value)
  | [], _ => []
  | spec :: specs, (value, values) => (spec.name, spec.type.tree value) :: memberTrees specs values

theorem FieldType.write_tree (type : FieldType) (value : type.Val) :
    (type.tree value).write = type.write value := by
  cases type with
  | text | number | flag | uuid => simp only [FieldType.tree, Value.ofNat, Value.write]; rfl

theorem writeMembers_memberTrees (first : Bool) (specs : List FieldSpec)
    (values : FieldValues specs) :
    Value.writeMembers first (memberTrees specs values) = writeFields first specs values := by
  induction specs generalizing first with
  | nil => simp only [memberTrees, Value.writeMembers, writeFields]
  | cons spec specs ih =>
      obtain ⟨value, values⟩ := values
      have first_written := spec.type.write_tree value
      simp only [memberTrees, Value.writeMembers, writeFields, first_written, ih]

theorem map_fst_memberTrees (specs : List FieldSpec) (values : FieldValues specs) :
    (memberTrees specs values).map Prod.fst = specs.map FieldSpec.name := by
  induction specs with
  | nil => rfl
  | cons spec specs ih =>
      obtain ⟨value, values⟩ := values
      exact congrArg (spec.name :: ·) (ih values)

/-- A body is written as the object of its members. -/
theorem write_memberTrees (kind : Kind) (body : Body kind) :
    (Value.object (memberTrees (layout kind).fields ((layout kind).toValues body))).write
      = writeBody kind body := by
  rw [Value.write, writeMembers_memberTrees]
  rfl

/-! ### Signing by the kind of value -/

/-- How a member is signed: a string as its UTF-8 bytes behind their number, a truth value as
zero or one, and a number as four bytes, of which the first counts least. -/
inductive SignedAs : Value → Bytes → Prop
  | string (text : String) :
      SignedAs (.string text) (Wire.varint (Bytes.ofText text).length ++ Bytes.ofText text)
  | boolean (value : Bool) : SignedAs (.boolean value) [if value then 1 else 0]
  | number {n : Nat} {a b c d : UInt8}
      (sum : n = a.toNat + 256 * (b.toNat + 256 * (c.toNat + 256 * d.toNat))) :
      SignedAs (.ofNat n) [a, b, c, d]

theorem signedAs_uint32 (n : UInt32) : SignedAs (.ofNat n.toNat) (Wire.uint32 n) := by
  refine .number ?_
  have bound := n.toNat_lt
  simp [Nat.shiftRight_eq_div_pow]
  omega

theorem FieldType.signedAs_encode (type : FieldType) (value : type.Val) :
    SignedAs (type.tree value) (type.encode value) := by
  cases type with
  | text => exact .string value
  | number => exact signedAs_uint32 value
  | flag => exact .boolean value
  | uuid => exact .string (Uuid.text value)

/-- The fields of a layout are signed member by member. -/
theorem exists_signedAs_encodeFields (specs : List FieldSpec) (values : FieldValues specs) :
    ∃ signed, List.Forall₂ SignedAs ((memberTrees specs values).map Prod.snd) signed ∧
      encodeFields specs values = signed.flatten := by
  induction specs with
  | nil => exact ⟨[], .nil, rfl⟩
  | cons spec specs ih =>
      obtain ⟨value, values⟩ := values
      obtain ⟨signed, each, all⟩ := ih values
      refine ⟨spec.type.encode value :: signed, .cons (spec.type.signedAs_encode value) each, ?_⟩
      rw [encodeFields, all, List.flatten_cons]

/--
**An operation is signed member by member, as it is serialized.**

The JSON of a known operation is the tag of its kind and an object, whose members have different
names.  Its signed form is the code of the kind and then, for each member of that object in turn,
the bytes of a string, of a truth value or of a number, with nothing in between and nothing
behind.
-/
theorem encode_member_by_member (kind : Kind) (body : Body kind) :
    ∃ (members : List (String × Value)) (signed : List Bytes),
      (known kind body).write = (Value.list [.string kind.tag, .object members]).write ∧
      (members.map Prod.fst).Nodup ∧
      List.Forall₂ SignedAs (members.map Prod.snd) signed ∧
      (known kind body).encode = .ok (Wire.varint kind.code ++ signed.flatten) := by
  obtain ⟨signed, each, all⟩ := exists_signedAs_encodeFields _ ((layout kind).toValues body)
  refine ⟨memberTrees (layout kind).fields ((layout kind).toValues body), signed, ?_, ?_, each, ?_⟩
  · simp only [write, tag, Value.write, Value.writeElements, ← write_memberTrees]
    simp
  · rw [map_fst_memberTrees]
    cases kind <;> decide
  · rw [encode, encodeBody_eq_encodeFields, all]

end BlogGateway.Operation
