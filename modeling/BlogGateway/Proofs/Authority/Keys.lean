/-
The key texts that are read.

A key text is the mark of the chain and then bytes in base 58: those of the key and four more, which
are a checksum and are not looked at.  Since a text in base 58 is read as bytes just when it is the
one that is written for them, a key text is read as a key just when it is one of the texts that the
key can have, one for each checksum.  Whatever else is given is refused with the text itself.
-/
import BlogGateway.Authority.Keys
import BlogGateway.Proofs.Bytes.Base58
import BlogGateway.Proofs.Except
import Mathlib.Data.List.Forall2

namespace BlogGateway

/-! ### Steps for each entry of a list -/

namespace Except

variable {ε α β : Type} {step : α → Except ε β} {list : List α}

/-- All steps succeed just when each of them does. -/
theorem mapM_eq_ok_iff {values : List β} :
    list.mapM step = .ok values ↔ List.Forall₂ (fun a value => step a = .ok value) list values := by
  induction list generalizing values with
  | nil =>
      rw [List.mapM_nil, List.forall₂_nil_left_iff]
      exact ⟨fun h => (Except.ok.inj h).symm, fun h => congrArg Except.ok h.symm⟩
  | cons a list ih =>
      rw [List.mapM_cons, List.forall₂_cons_left_iff]
      simp only [bind_eq_ok_iff, ih]
      constructor
      · rintro ⟨value, own, values', others, h⟩
        exact ⟨value, values', own, others, (Except.ok.inj h).symm⟩
      · rintro ⟨value, values', own, others, rfl⟩
        exact ⟨value, own, values', others, rfl⟩

/-- The steps fail as the first of them that fails. -/
theorem mapM_eq_error_iff {error : ε} :
    list.mapM step = .error error ↔ ∃ front a back, list = front ++ a :: back ∧
      (∀ earlier ∈ front, ∃ value, step earlier = .ok value) ∧ step a = .error error := by
  induction list with
  | nil => simp [pure, Except.pure]
  | cons b list ih =>
      rw [List.mapM_cons, bind_eq_error_iff]
      constructor
      · rintro (failed | ⟨value, own, h⟩)
        · exact ⟨[], b, list, rfl, by simp, failed⟩
        rcases bind_eq_error_iff.mp h with failed | ⟨values, others, h⟩
        · obtain ⟨front, a, back, rfl, earlier, failed⟩ := ih.mp failed
          exact ⟨b :: front, a, back, rfl, List.forall_mem_cons.mpr ⟨⟨value, own⟩, earlier⟩, failed⟩
        · cases h
      · rintro ⟨front, a, back, split, earlier, failed⟩
        cases front with
        | nil =>
            obtain ⟨rfl, rfl⟩ := List.cons.inj split
            exact .inl failed
        | cons b' front =>
            obtain ⟨rfl, rfl⟩ := List.cons.inj split
            obtain ⟨⟨value, own⟩, earlier⟩ := List.forall_mem_cons.mp earlier
            have others := ih.mpr ⟨front, a, back, rfl, earlier, failed⟩
            exact .inr ⟨value, own, bind_eq_error_iff.mpr (.inl others)⟩

end Except

namespace PublicKey

variable {text : String} {key : PublicKey}

/-- The text is the mark of the chain, and then in base 58 the bytes and some checksum. -/
def Spells (text : String) (bytes : Bytes) : Prop :=
  ∃ checksum : Bytes, checksum.length = 4 ∧
    Bytes.ofText text = Bytes.ofText "SCR" ++ Base58.encode (bytes ++ checksum)

/-- Bytes are found in a text just when it spells them. -/
theorem textBytes?_eq_some_iff {bytes : Bytes} :
    textBytes? text = some bytes ↔ Spells text bytes := by
  unfold textBytes?
  constructor
  · intro h
    dsimp only at h
    split at h
    · cases h
    rename_i marked
    obtain ⟨decoded, found, h⟩ := Option.bind_eq_some_iff.mp h
    split at h
    · cases h
    rename_i enough
    obtain rfl := Option.some.inj h
    rw [Bool.not_eq_true', Bool.not_eq_false, List.isPrefixOf_iff_prefix] at marked
    obtain ⟨coded, split⟩ := marked
    rw [← split, List.drop_left, Base58.decode?_eq_some_iff] at found
    refine ⟨decoded.drop (decoded.length - checksumLength), ?_, ?_⟩
    · rw [List.length_drop]
      exact Nat.sub_sub_self (Nat.not_lt.mp enough)
    · rw [List.take_append_drop, ← found, ← split, textMark]
  · rintro ⟨checksum, four, split⟩
    have marked : textMark.isPrefixOf (Bytes.ofText text) = true := by
      rw [List.isPrefixOf_iff_prefix, split]
      exact List.prefix_append ..
    have decoded : Base58.decode? ((Bytes.ofText text).drop textMark.length)
        = some (bytes ++ checksum) := by
      rw [split, ← textMark, List.drop_left]
      exact Base58.decode?_eq_some_iff.mpr rfl
    have enough : ¬ (bytes ++ checksum).length < checksumLength := by
      rw [List.length_append, four]
      exact Nat.not_lt.mpr (Nat.le_add_left ..)
    have found : (bytes ++ checksum).take ((bytes ++ checksum).length - checksumLength)
        = bytes := by
      rw [List.length_append, four]
      exact List.take_left
    simp only [marked, decoded, Bool.not_true, Bool.false_eq_true, ↓reduceIte, Option.bind_eq_bind,
      Option.bind_some, enough, found]

theorem ofBytes_eq_ok_iff {bytes : Bytes} : ofBytes bytes = .ok key ↔ bytes = key.bytes := by
  unfold ofBytes
  constructor
  · intro h
    split at h
    · rw [← Except.ok.inj h]
    · cases h
  · rintro rfl
    exact dif_pos key.length_eq

/-- **A text is read as a key just when it spells the bytes of the key.** -/
theorem parse_eq_ok_iff : parse text = .ok key ↔ Spells text key.bytes := by
  rw [← textBytes?_eq_some_iff]
  unfold parse
  cases textBytes? text with
  | none => simp
  | some bytes => rw [Except.mapError_eq_ok_iff, ofBytes_eq_ok_iff, Option.some.injEq]

/-- A text that is not read as a key is refused with the text. -/
theorem parse_cases (text : String) :
    (∃ key, parse text = .ok key) ∨ parse text = .error (.invalidKey text) := by
  unfold parse
  cases textBytes? text with
  | none => exact .inr rfl
  | some bytes =>
      dsimp only
      cases ofBytes bytes with
      | ok key => exact .inl ⟨key, rfl⟩
      | error count => exact .inr rfl

/--
**The key texts that are read.**

A text is read as a key just when it is the mark of the chain, followed by the bytes of the key with
any four bytes of checksum in base 58, and whatever is not read as a key is refused with the text
itself.  The texts of a level are read as their keys, in order, when each of them is read, and are
refused as the first that is not.
-/
theorem key_texts :
    (∀ (text : String) (key : PublicKey), parse text = .ok key ↔ Spells text key.bytes) ∧
    (∀ text : String, parse text = .error (.invalidKey text) ↔
      ∀ key : PublicKey, ¬ Spells text key.bytes) ∧
    (∀ (texts : List String) (keys : List PublicKey), parseAll texts = .ok keys ↔
      List.Forall₂ (fun text key => parse text = .ok key) texts keys) ∧
    ∀ (texts : List String) (cause : AuthorityError), parseAll texts = .error cause ↔
      ∃ front text back, texts = front ++ text :: back ∧
        (∀ earlier ∈ front, ∃ key, parse earlier = .ok key) ∧ parse text = .error cause := by
  refine ⟨fun text key => parse_eq_ok_iff, fun text => ⟨?_, ?_⟩,
    fun texts keys => Except.mapM_eq_ok_iff, fun texts cause => Except.mapM_eq_error_iff⟩
  · intro refused key spells
    cases refused.symm.trans (parse_eq_ok_iff.mpr spells)
  · intro none
    rcases parse_cases text with ⟨key, read⟩ | refused
    · exact absurd (parse_eq_ok_iff.mp read) (none key)
    · exact refused

end PublicKey

end BlogGateway
