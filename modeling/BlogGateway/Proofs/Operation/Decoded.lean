/-
What decoding says about a text.

A text is decoded in three steps that never get into each other's way.  It must be a list, whose
elements are crossed and not looked into; there must be two of them; and the first must be a
string, which is decoded.  Only the name that it spells decides whether the second element is
looked into at all: under a name that no kind has it is kept as it stands, whatever it is, and
under the name of a kind it is read as a body of that kind and of no other.

`Decodes` and `PairDecodes` say this in words of the grammar, with a constructor for every ending.
A text has its elements in one way only, and a string spells one text only, so no two endings are
possible at once, and each comes about just when its condition holds.
-/
import BlogGateway.Operation.Basic
import BlogGateway.Proofs.Json.Elements
import BlogGateway.Proofs.Operation.Spelling

namespace BlogGateway.Operation

open Json

/-- What two elements may be decoded as. -/
inductive PairDecodes (tag body : Bytes) : Except DecodeError Operation → Prop
  /-- The first spells nothing. -/
  | tag {cause : Json.Error} (unnamed : ∀ name, ¬ SpellsString name tag) :
      PairDecodes tag body (.error (.tag cause))
  /-- The name is that of no kind, and the second is kept. -/
  | unknown {name : String} {raw : Raw} (named : SpellsString name tag)
      (unknown : ∀ kind : Kind, kind.tag ≠ name) (kept : raw.bytes = body) :
      PairDecodes tag body (.ok (.unknown name raw))
  | known {kind : Kind} {known : Body kind} (named : SpellsString kind.tag tag) :
      PairDecodes tag body (.ok (.known kind known))
  /-- The name is that of a kind, and the second is no body of it. -/
  | body {kind : Kind} {cause : Json.Error} (named : SpellsString kind.tag tag) :
      PairDecodes tag body (.error (.body kind cause))

/-- What a text may be decoded as. -/
inductive Decodes (text : Bytes) : Except DecodeError Operation → Prop
  | malformed {cause : Json.Error} (other : ∀ tokens, ¬ IsList tokens text) :
      Decodes text (.error (.malformed cause))
  | arity {tokens : List Bytes} (isList : IsList tokens text) (other : tokens.length ≠ 2) :
      Decodes text (.error (.arity tokens.length))
  | pair {tag body : Bytes} {result : Except DecodeError Operation}
      (isList : IsList [tag, body] text) (decodes : PairDecodes tag body result) :
      Decodes text result

variable {text name : String} {parts : List Raw} {result : Except DecodeError Operation}

/-! ### Every text -/

theorem ofParts_of_length_ne (other : parts.length ≠ 2) :
    ofParts parts = .error (.arity parts.length) := by
  match parts, other with
  | [], _ | [_], _ | _ :: _ :: _ :: _, _ => rfl
  | [_, _], other => exact absurd rfl other

/-- Of two elements the first is read, and the name that it spells decides. -/
theorem pairDecodes_ofParts {tag body : Raw} (isValue : IsValue tag.bytes) :
    PairDecodes tag.bytes body.bytes (ofParts [tag, body]) := by
  have reads {name : String} : tag.read (readString "a string") = .ok name ↔
      SpellsString name tag.bytes := Raw.read_string_iff isValue
  cases named : tag.read (readString "a string") with
  | error cause =>
      simp only [ofParts, named, Except.mapError_error, bind, Except.bind]
      refine .tag fun name spells => ?_
      rw [reads.mpr spells] at named
      cases named
  | ok name =>
      have spells := reads.mp named
      by_cases unknown : ∀ kind : Kind, kind.tag ≠ name
      · simp only [ofParts, named, Except.mapError_ok, bind, Except.bind, ofTag?_eq_none unknown]
        exact .unknown spells unknown rfl
      · obtain ⟨kind, rfl⟩ : ∃ kind : Kind, kind.tag = name := by simpa using unknown
        simp only [ofParts, named, Except.mapError_ok, bind, Except.bind, ofTag?_tag]
        cases body.read (readBody kind) with
        | ok known => exact .known spells
        | error cause => exact .body spells

/-- Every text is decoded in one of these ways. -/
theorem decodes (text : String) : Decodes (Bytes.ofText text) (decode (Bytes.ofText text)) := by
  unfold decode
  cases read : readWholeText (readList readRaw) (Bytes.ofText text) with
  | error cause =>
      refine .malformed fun tokens isList => ?_
      obtain ⟨parts, rfl⟩ := isList.exists_raws (Bytes.isText_ofText text)
      rw [read_eq_ok_iff.mpr isList] at read
      cases read
  | ok parts =>
      have isList := read_eq_ok_iff.mp read
      simp only [Except.mapError_ok, bind, Except.bind]
      by_cases two : parts.length = 2
      · obtain ⟨tag, body, rfl⟩ := List.length_eq_two.mp two
        exact .pair isList (pairDecodes_ofParts (isList.isValue _ (List.mem_cons_self ..)))
      · rw [ofParts_of_length_ne two, ← List.length_map (f := Raw.bytes)]
        exact .arity isList (by rwa [List.length_map])

/-! ### One ending for each pair -/

section Pairs

variable {tag body : Bytes}

theorem PairDecodes.tag_iff (ends : PairDecodes tag body result) :
    (∃ cause, result = .error (.tag cause)) ↔ ∀ name, ¬ SpellsString name tag := by
  constructor
  · rintro ⟨cause, rfl⟩
    cases ends with
    | tag unnamed => exact unnamed
  · intro unnamed
    cases ends with
    | tag => exact ⟨_, rfl⟩
    | unknown named | known named | body named => exact absurd named (unnamed _)

theorem PairDecodes.unknown_iff (ends : PairDecodes tag body result) :
    (∃ raw : Raw, raw.bytes = body ∧ result = .ok (.unknown name raw)) ↔
      SpellsString name tag ∧ ∀ kind : Kind, kind.tag ≠ name := by
  constructor
  · rintro ⟨raw, -, rfl⟩
    cases ends with
    | unknown named unknown => exact ⟨named, unknown⟩
  · rintro ⟨named, unknown⟩
    cases ends with
    | tag unnamed => exact absurd named (unnamed _)
    | unknown named' _ kept =>
        obtain rfl := named.unique named'
        exact ⟨_, kept, rfl⟩
    | known named' | body named' => exact absurd (named'.unique named) (unknown _)

theorem PairDecodes.kind_iff {kind : Kind} (ends : PairDecodes tag body result) :
    ((∃ known, result = .ok (.known kind known)) ∨ ∃ cause, result = .error (.body kind cause)) ↔
      SpellsString kind.tag tag := by
  constructor
  · rintro (⟨known, rfl⟩ | ⟨cause, rfl⟩)
    · cases ends with
      | known named => exact named
    · cases ends with
      | body named => exact named
  · intro named
    cases ends with
    | tag unnamed => exact absurd named (unnamed _)
    | unknown named' unknown => exact absurd (named.unique named') (unknown kind)
    | known named' =>
        obtain rfl := Kind.tag_injective (named.unique named')
        exact .inl ⟨_, rfl⟩
    | body named' =>
        obtain rfl := Kind.tag_injective (named.unique named')
        exact .inr ⟨_, rfl⟩

end Pairs

/-! ### One ending for each text -/

theorem Decodes.malformed_iff {bytes : Bytes} (ends : Decodes bytes result) :
    (∃ cause, result = .error (.malformed cause)) ↔ ∀ tokens, ¬ IsList tokens bytes := by
  constructor
  · rintro ⟨cause, rfl⟩
    cases ends with
    | malformed other => exact other
    | pair isList decodes => cases decodes
  · intro none
    cases ends with
    | malformed => exact ⟨_, rfl⟩
    | arity isList | pair isList => exact absurd isList (none _)

theorem Decodes.arity_iff (ends : Decodes (Bytes.ofText text) result) {count : Nat} :
    result = .error (.arity count) ↔
      ∃ tokens, IsList tokens (Bytes.ofText text) ∧ tokens.length = count ∧ count ≠ 2 := by
  constructor
  · rintro rfl
    cases ends with
    | arity isList other => exact ⟨_, isList, rfl, other⟩
    | pair isList decodes => cases decodes
  · rintro ⟨tokens, isList, rfl, other⟩
    cases ends with
    | malformed none => exact absurd isList (none _)
    | arity isList' => rw [isList.unique isList' (Bytes.isText_ofText text)]
    | pair isList' =>
        rw [isList.unique isList' (Bytes.isText_ofText text)] at other
        exact absurd rfl other

theorem Decodes.exists_pair {bytes : Bytes} (ends : Decodes bytes result)
    (list : ∀ cause, result ≠ .error (.malformed cause))
    (two : ∀ count, result ≠ .error (.arity count)) :
    ∃ tag body, IsList [tag, body] bytes ∧ PairDecodes tag body result := by
  cases ends with
  | malformed => exact absurd rfl (list _)
  | arity => exact absurd rfl (two _)
  | pair isList decodes => exact ⟨_, _, isList, decodes⟩

/-- What a text of two elements is decoded as is decided by these. -/
theorem Decodes.of_pair (ends : Decodes (Bytes.ofText text) result) {tag body : Bytes}
    (isList : IsList [tag, body] (Bytes.ofText text)) : PairDecodes tag body result := by
  cases ends with
  | malformed none => exact absurd isList (none _)
  | arity isList' other =>
      rw [← isList.unique isList' (Bytes.isText_ofText text)] at other
      exact absurd rfl other
  | pair isList' decodes =>
      cases isList.unique isList' (Bytes.isText_ofText text)
      exact decodes

/--
**What decoding makes of a text.**

A text is malformed when it is no list, and wrong in number when it is a list of other than two
elements.  When the first of two elements spells no text, the tag is wrong.  When it spells a name
that no kind has, decoding succeeds and keeps the very bytes of the second element, and when it
spells the name of a kind, there is an operation of that kind or an error about its body.  None of
this happens in any other case.
-/
theorem decode_classified (text : String) :
    ((∃ cause, decode (Bytes.ofText text) = .error (.malformed cause)) ↔
      ∀ tokens, ¬ IsList tokens (Bytes.ofText text)) ∧
    (∀ count, decode (Bytes.ofText text) = .error (.arity count) ↔
      ∃ tokens, IsList tokens (Bytes.ofText text) ∧ tokens.length = count ∧ count ≠ 2) ∧
    ((∃ cause, decode (Bytes.ofText text) = .error (.tag cause)) ↔
      ∃ tag body, IsList [tag, body] (Bytes.ofText text) ∧ ∀ name, ¬ SpellsString name tag) ∧
    (∀ name body, (∃ raw : Raw, raw.bytes = body ∧
        decode (Bytes.ofText text) = .ok (.unknown name raw)) ↔
      ∃ tag, IsList [tag, body] (Bytes.ofText text) ∧ SpellsString name tag ∧
        ∀ kind : Kind, kind.tag ≠ name) ∧
    ∀ kind, ((∃ known, decode (Bytes.ofText text) = .ok (.known kind known)) ∨
        ∃ cause, decode (Bytes.ofText text) = .error (.body kind cause)) ↔
      ∃ tag body, IsList [tag, body] (Bytes.ofText text) ∧ SpellsString kind.tag tag := by
  have ends := decodes text
  generalize decode (Bytes.ofText text) = result at ends
  refine ⟨ends.malformed_iff, fun count => ends.arity_iff, ⟨?_, ?_⟩, fun name body => ⟨?_, ?_⟩,
    fun kind => ⟨?_, ?_⟩⟩
  · rintro ⟨cause, rfl⟩
    obtain ⟨tag, body, isList, decodes⟩ := ends.exists_pair (by simp) (by simp)
    exact ⟨tag, body, isList, decodes.tag_iff.mp ⟨cause, rfl⟩⟩
  · rintro ⟨tag, body, isList, unnamed⟩
    exact (ends.of_pair isList).tag_iff.mpr unnamed
  · rintro ⟨raw, kept, rfl⟩
    obtain ⟨tag, body', isList, decodes⟩ := ends.exists_pair (by simp) (by simp)
    obtain rfl : raw.bytes = body' := by
      cases decodes with
      | unknown _ _ kept => exact kept
    subst kept
    exact ⟨tag, isList, decodes.unknown_iff.mp ⟨raw, rfl, rfl⟩⟩
  · rintro ⟨tag, isList, named⟩
    exact (ends.of_pair isList).unknown_iff.mpr named
  · intro known
    obtain ⟨tag, body, isList, decodes⟩ := ends.exists_pair
      (by rintro cause rfl; simp at known) (by rintro count rfl; simp at known)
    exact ⟨tag, body, isList, decodes.kind_iff.mp known⟩
  · rintro ⟨tag, body, isList, named⟩
    exact (ends.of_pair isList).kind_iff.mpr named

end BlogGateway.Operation
