/-
Raw values are the text that was there.

A raw value is cut out of the text around it: a scan crosses the value and returns what
follows, and the value is whatever the scan has crossed.  So a raw value and what follows it
are the text again, and since no scan ends before it has begun, a raw value is never empty.

Readers of lists hand out nothing that the reader of their elements did not read, which
carries such facts over to the arguments of a call.
-/
import BlogGateway.Json.Reader
import BlogGateway.Proofs.Except

namespace BlogGateway

theorem Bytes.ofText_of_toText? {bytes : Bytes} {text : String}
    (h : toText? bytes = some text) : ofText text = bytes := by
  unfold toText? String.fromUTF8? at h
  split at h
  · rw [Option.some.injEq] at h
    subst h
    rfl
  · cases h

namespace Json

/-! ### What a scan leaves -/

theorem eq_nil_of_atEnd {stack : List Container} {place : Place} {rest : Bytes}
    (h : place.atEnd stack = .ok rest) : rest = [] := by
  cases place with
  | ended =>
      cases stack with
      | nil => exact (Except.ok.inj h).symm
      | cons inner outer => cases h
  | number part =>
      simp only [Place.atEnd] at h
      split at h
      · cases stack with
        | nil => exact (Except.ok.inj h).symm
        | cons inner outer => cases h
      · cases h
  | value | opened | key | colon | word | text => cases h

/-- A scan that goes on for a step and then leaves an end of what follows leaves an end of
the whole. -/
private theorem suffix_cons_of_step {stack : List Container} {place : Place} {b : UInt8}
    {s rest : Bytes}
    (ih : ∀ {stack place}, scan stack place s = .ok rest → rest <:+ s)
    (h : (do
      let (stack, place) ← Place.step stack place b
      scan stack place s) = .ok rest) : rest <:+ b :: s := by
  obtain ⟨next, -, hscan⟩ := Except.bind_eq_ok_iff.mp h
  exact (ih hscan).trans (List.suffix_cons b s)

/-- A scan leaves an end of the bytes that it was given. -/
theorem suffix_of_scan {s rest : Bytes} {stack : List Container} {place : Place}
    (h : scan stack place s = .ok rest) : rest <:+ s := by
  induction s generalizing stack place with
  | nil =>
      rw [scan] at h
      obtain rfl := eq_nil_of_atEnd h
      exact List.suffix_rfl
  | cons b s ih =>
      rw [scan.eq_def] at h
      cases place with
      | ended =>
          simp only at h
          split at h
          · obtain rfl := Except.ok.inj h
            exact List.suffix_rfl
          · exact suffix_cons_of_step ih h
      | number part =>
          simp only at h
          split at h
          · exact (ih h).trans (List.suffix_cons b s)
          · cases h
          · split at h
            · obtain rfl := Except.ok.inj h
              exact List.suffix_rfl
            · exact suffix_cons_of_step ih h
      | value | opened | key | colon | word | text => exact suffix_cons_of_step ih h

/-- Where a value must begin, a scan takes at least one byte. -/
theorem split_of_skipValue {s rest : Bytes} (h : skipValue s = .ok rest) :
    ∃ value, value ≠ [] ∧ s = value ++ rest := by
  cases s with
  | nil => cases h
  | cons b s =>
      have hrest : rest <:+ s := by
        unfold skipValue at h
        rw [scan] at h
        · obtain ⟨next, -, hscan⟩ := Except.bind_eq_ok_iff.mp h
          exact suffix_of_scan hscan
        · intro hplace; cases hplace
        · intro part hplace; cases hplace
      obtain ⟨value, rfl⟩ := hrest
      exact ⟨b :: value, by simp, rfl⟩

/-! ### Raw values -/

/-- A raw value is not empty, and with what follows it is the text again. -/
theorem split_of_readRaw {s rest : Bytes} {raw : Raw} (h : readRaw s = .ok (raw, rest)) :
    raw.bytes ≠ [] ∧ skipSpace s = raw.bytes ++ rest := by
  obtain ⟨left, hskip, h⟩ := Except.bind_eq_ok_iff.mp h
  obtain ⟨value, hvalue, hsplit⟩ := split_of_skipValue (Except.mapError_eq_ok_iff.mp hskip)
  have htake : (skipSpace s).take ((skipSpace s).length - left.length) = value := by
    rw [hsplit]
    simp
  rw [htake] at h
  split at h
  · rename_i text htext
    obtain ⟨rfl, rfl⟩ := Prod.mk.inj (Except.ok.inj h)
    have hbytes : Raw.bytes ⟨text⟩ = value := Bytes.ofText_of_toText? htext
    rw [hbytes]
    exact ⟨hvalue, hsplit⟩
  · cases h

theorem text_ne_empty_of_readRaw {s rest : Bytes} {raw : Raw}
    (h : readRaw s = .ok (raw, rest)) : raw.text ≠ "" := by
  intro hempty
  apply (split_of_readRaw h).1
  unfold Raw.bytes
  rw [hempty]
  rfl

theorem exists_read_of_readWholeText {α : Type} {read : Reader α} {s : Bytes} {value : α}
    (h : readWholeText read s = .ok value) : ∃ rest, read s = .ok (value, rest) := by
  obtain ⟨found, hread, h⟩ := Except.bind_eq_ok_iff.mp h
  dsimp only at h
  split at h
  · obtain rfl := Except.ok.inj h
    exact ⟨found.2, hread⟩
  · cases h

/-! ### Lists -/

section Lists

variable {α : Type} {read : Reader α} {P : α → Prop}

theorem forall_of_readElements (hread : ∀ {s value rest}, read s = .ok (value, rest) → P value)
    {fuel : Nat} {first : Bool} {s rest : Bytes} {values : List α}
    (h : readElements read fuel first s = .ok (values, rest)) : ∀ value ∈ values, P value := by
  induction fuel generalizing first s rest values with
  | zero => cases h
  | succ fuel ih =>
      obtain ⟨next, -, h⟩ := Except.bind_eq_ok_iff.mp h
      cases next with
      | none =>
          obtain ⟨rfl, -⟩ := Prod.mk.inj (Except.ok.inj h)
          simp
      | some start =>
          obtain ⟨⟨value, behind⟩, hvalue, h⟩ := Except.bind_eq_ok_iff.mp h
          obtain ⟨⟨others, last⟩, hothers, h⟩ := Except.bind_eq_ok_iff.mp h
          obtain ⟨rfl, -⟩ := Prod.mk.inj (Except.ok.inj h)
          intro v hv
          rcases List.mem_cons.mp hv with rfl | hv'
          · exact hread hvalue
          · exact ih hothers v hv'

/-- What the reader of the elements guarantees holds of all that are read. -/
theorem forall_of_readList (hread : ∀ {s value rest}, read s = .ok (value, rest) → P value)
    {s rest : Bytes} {values : List α} (h : readList read s = .ok (values, rest)) :
    ∀ value ∈ values, P value := by
  unfold readList atValue at h
  split at h
  · cases h
  · rename_i b t _
    dsimp only at h
    split at h
    · obtain ⟨⟨values', behind⟩, helements, h⟩ := Except.bind_eq_ok_iff.mp h
      obtain ⟨after, -, h⟩ := Except.bind_eq_ok_iff.mp h
      obtain ⟨rfl, -⟩ := Prod.mk.inj (Except.ok.inj h)
      exact forall_of_readElements hread helements
    · cases h

end Lists

end Json

end BlogGateway
