/-
The signed form of operations.

An operation is signed as the code of its kind and the fields of its body.  Codes are
self-delimiting and different for different kinds, so the code decides which layout follows;
the fields of a layout are each self-delimiting, and so are all of them together.  Hence the
signed forms of two known operations, of whatever kinds, are told apart by their bytes.

Operations that are not known have no signed form at all.  A list of operations has one
exactly when it is the list of some known ones, and it is then their signed forms one behind
the other: `encodeOperations_eq_ok_iff` is all that later proofs need of the encoder.
-/
import BlogGateway.Proofs.Except
import BlogGateway.Proofs.Operation.Signed
import BlogGateway.Proofs.Uuid
import BlogGateway.Proofs.Wire.SelfDelimiting
import BlogGateway.Transaction

namespace BlogGateway

open Wire

namespace Operation

/-! ### Bodies -/

theorem FieldType.selfDelimiting_encode (type : FieldType) : SelfDelimiting type.encode := by
  cases type with
  | text => exact selfDelimiting_text
  | number => exact selfDelimiting_uint32
  | flag => exact selfDelimiting_flag
  | uuid => exact selfDelimiting_text.comap fun _ _ h => Uuid.text_injective h

theorem selfDelimiting_encodeFields (specs : List FieldSpec) :
    SelfDelimiting (encodeFields specs) := by
  induction specs with
  | nil =>
      intro a b s t h
      exact ⟨rfl, h⟩
  | cons spec specs ih =>
      intro a b s t h
      obtain ⟨value, values⟩ := a
      obtain ⟨value', values'⟩ := b
      simp only [encodeFields, List.append_assoc] at h
      obtain ⟨hvalue, hrest⟩ := spec.type.selfDelimiting_encode h
      obtain ⟨hvalues, hst⟩ := ih hrest
      exact ⟨by rw [hvalue, hvalues], hst⟩

theorem selfDelimiting_encodeBody (kind : Kind) : SelfDelimiting (encodeBody kind) := by
  have fields : SelfDelimiting fun body =>
      encodeFields (layout kind).fields ((layout kind).toValues body) :=
    (selfDelimiting_encodeFields (layout kind).fields).comap fun a b h => by
      rw [← (layout kind).ofValues_toValues a, h, (layout kind).ofValues_toValues b]
  rwa [← funext (encodeBody_eq_encodeFields kind)] at fields

/-! ### Known operations -/

/-- An operation of a kind that is known. -/
abbrev Known := Σ kind, Body kind

/-- The known operation as an operation. -/
def ofKnown (operation : Known) : Operation := .known operation.1 operation.2

/-- The code of the kind, then the fields of the body. -/
def Known.encode (operation : Known) : Bytes :=
  varint operation.1.code ++ encodeBody operation.1 operation.2

theorem Known.selfDelimiting_encode : SelfDelimiting Known.encode := by
  intro a b s t h
  obtain ⟨kind, body⟩ := a
  obtain ⟨kind', body'⟩ := b
  simp only [Known.encode, List.append_assoc] at h
  obtain ⟨hcode, hrest⟩ := selfDelimiting_varint h
  obtain rfl := Kind.code_injective hcode
  obtain ⟨rfl, hst⟩ := selfDelimiting_encodeBody kind hrest
  exact ⟨rfl, hst⟩

end Operation

namespace Transaction

open Operation

/-! ### Lists of operations -/

theorem encodeOperations_nil : encodeOperations [] = .ok [] := rfl

theorem encodeOperations_known (kind : Kind) (body : Body kind) (rest : List Operation) :
    encodeOperations (.known kind body :: rest)
      = (encodeOperations rest).map (Known.encode ⟨kind, body⟩ ++ ·) := by
  unfold encodeOperations
  rw [List.mapM_cons]
  cases rest.mapM Operation.encode with
  | error cause => rfl
  | ok encoded => rfl

theorem encodeOperations_unknown (tag : String) (body : Json.Raw) (rest : List Operation) :
    encodeOperations (.unknown tag body :: rest) = .error (.operation ⟨tag⟩) := by
  unfold encodeOperations
  rw [List.mapM_cons]
  rfl

/-- Exactly the lists of known operations have a signed form. -/
theorem encodeOperations_eq_ok_iff {operations : List Operation} {bytes : Bytes} :
    encodeOperations operations = .ok bytes ↔
      ∃ known : List Known, operations = known.map ofKnown ∧
        bytes = known.flatMap Known.encode := by
  induction operations generalizing bytes with
  | nil =>
      rw [encodeOperations_nil]
      constructor
      · intro h
        obtain rfl := Except.ok.inj h
        exact ⟨[], rfl, rfl⟩
      · intro h
        obtain ⟨known, hops, rfl⟩ := h
        obtain rfl : known = [] := by simpa using hops.symm
        rfl
  | cons operation rest ih =>
      constructor
      · intro h
        cases operation with
        | unknown tag body => rw [encodeOperations_unknown] at h; cases h
        | known kind body =>
            rw [encodeOperations_known] at h
            obtain ⟨encoded, hrest, rfl⟩ := Except.map_eq_ok_iff.mp h
            obtain ⟨known, rfl, rfl⟩ := ih.mp hrest
            exact ⟨⟨kind, body⟩ :: known, rfl, rfl⟩
      · intro h
        obtain ⟨known, hops, rfl⟩ := h
        cases known with
        | nil => cases hops
        | cons first known =>
            obtain ⟨rfl, rfl⟩ := List.cons.inj hops
            show encodeOperations (.known first.1 first.2 :: known.map ofKnown) = _
            rw [encodeOperations_known, ih.mpr ⟨known, rfl, rfl⟩]
            rfl

/-- A list of operations that all have a kind is one of known operations. -/
theorem exists_known_of_forall_kind? {operations : List Operation}
    (h : ∀ operation ∈ operations, operation.kind?.isSome) :
    ∃ known : List Known, operations = known.map ofKnown := by
  induction operations with
  | nil => exact ⟨[], rfl⟩
  | cons operation rest ih =>
      obtain ⟨known, rfl⟩ := ih fun operation hmem => h operation (by simp [hmem])
      cases operation with
      | known kind body => exact ⟨⟨kind, body⟩ :: known, rfl⟩
      | unknown tag body => exact absurd (h (.unknown tag body) (by simp)) (by simp [kind?])

end Transaction

end BlogGateway
