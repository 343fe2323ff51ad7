/-
Ids that clients choose.

The field rules let an id have ASCII letters and digits only.  Of such a text the lower-case
form is made letter by letter, whatever stands around a letter, and it consists of letters and
digits again; so an id in lower case is its own lower-case form, and no id holds a slash.
-/
import BlogGateway.Operation.Rules
import BlogGateway.Proofs.Except
import BlogGateway.Text.Lowercase

namespace BlogGateway.Operation

/-- The text has ASCII letters and digits only. -/
def Alphanumeric (text : String) : Prop := ∀ c ∈ text.toList, isAlphanumeric c = true

/-! ### What the rules demand -/

theorem demand_eq_ok_iff {field : String} {holds : Bool} {reason : Reason} :
    demand field holds reason = .ok () ↔ holds = true := by
  unfold demand
  cases holds with
  | false => simp
  | true => simp

theorem clientId_eq_ok_iff {field value : String} :
    clientId field value = .ok () ↔
      value ≠ "" ∧ value.toList.length ≤ 16 ∧ Alphanumeric value := by
  have there : required field value = .ok () ↔ value ≠ "" := by
    unfold required
    rw [demand_eq_ok_iff]
    exact decide_eq_true_iff
  have short : atMost idLimit field value = .ok () ↔ value.toList.length ≤ 16 := by
    unfold atMost
    rw [demand_eq_ok_iff]
    exact decide_eq_true_iff
  have plain : demand field (value.toList.all isAlphanumeric) .notAlphanumeric = .ok () ↔
      Alphanumeric value := by
    simp only [demand_eq_ok_iff, List.all_eq_true, Alphanumeric]
  constructor
  · intro h
    obtain ⟨_, hthere, h⟩ := Except.bind_eq_ok_iff.mp h
    obtain ⟨_, hshort, hplain⟩ := Except.bind_eq_ok_iff.mp h
    exact ⟨there.mp hthere, short.mp hshort, plain.mp hplain⟩
  · intro h
    obtain ⟨hthere, hshort, hplain⟩ := h
    exact Except.bind_eq_ok_iff.mpr ⟨(), there.mpr hthere,
      Except.bind_eq_ok_iff.mpr ⟨(), short.mpr hshort, plain.mpr hplain⟩⟩

/-- The id of a picture that may be stored. -/
theorem alphanumeric_of_rules {op : UploadMedia} (valid : rules .uploadMedia op = .ok ()) :
    Alphanumeric op.id := by
  obtain ⟨_, -, valid⟩ := Except.bind_eq_ok_iff.mp valid
  obtain ⟨_, id, -⟩ := Except.bind_eq_ok_iff.mp valid
  exact (clientId_eq_ok_iff.mp id).2.2

/-! ### Lower case -/

theorem toNat_lt_of_isAlphanumeric {c : Char} (plain : isAlphanumeric c = true) :
    c.toNat < 128 := by
  simp only [isAlphanumeric, Text.isLetter, Text.isDigit, Bool.or_eq_true, Bool.and_eq_true,
    decide_eq_true_eq, Char.le_def, UInt32.le_iff_toNat_le] at plain
  show c.val.toNat < 128
  have z : 'z'.val.toNat = 122 := rfl
  have Z : 'Z'.val.toNat = 90 := rfl
  have nine : '9'.val.toNat = 57 := rfl
  omega

/-- The letters and digits, one by one. -/
private theorem lower_table : ∀ code : Fin 128, isAlphanumeric (Char.ofNat code) = true →
    Char.ofNat code ≠ 'Σ' ∧
    Text.lowerChar (Char.ofNat code) = [(Char.ofNat code).toLower] ∧
    isAlphanumeric (Char.ofNat code).toLower = true ∧
    (Char.ofNat code).toLower.toLower = (Char.ofNat code).toLower := by
  decide +kernel

/-- A letter or digit has a lower-case form of one letter or digit, which is its own. -/
theorem lower_of_isAlphanumeric {c : Char} (plain : isAlphanumeric c = true) :
    c ≠ 'Σ' ∧ Text.lowerChar c = [c.toLower] ∧ isAlphanumeric c.toLower = true ∧
      c.toLower.toLower = c.toLower := by
  have row := lower_table ⟨c.toNat, toNat_lt_of_isAlphanumeric plain⟩
  rw [Char.ofNat_toNat] at row
  exact row plain

theorem lowerAfter_of_alphanumeric {s : List Char} (plain : ∀ c ∈ s, isAlphanumeric c = true)
    (before : List Char) : Text.lowerAfter before s = s.map Char.toLower := by
  induction s generalizing before with
  | nil => rfl
  | cons c rest ih =>
      obtain ⟨first, rest_plain⟩ := List.forall_mem_cons.mp plain
      obtain ⟨sigma, lower, -, -⟩ := lower_of_isAlphanumeric first
      rw [Text.lowerAfter, if_neg sigma, lower, ih rest_plain]
      rfl

theorem toList_lowercase {text : String} (plain : Alphanumeric text) :
    (Text.lowercase text).toList = text.toList.map Char.toLower := by
  unfold Text.lowercase
  rw [String.toList_ofList, lowerAfter_of_alphanumeric plain]

theorem Alphanumeric.lowercase {text : String} (plain : Alphanumeric text) :
    Alphanumeric (Text.lowercase text) := by
  intro c hmem
  rw [toList_lowercase plain] at hmem
  obtain ⟨upper, hupper, rfl⟩ := List.mem_map.mp hmem
  exact (lower_of_isAlphanumeric (plain upper hupper)).2.2.1

/-- A text in lower case is its own lower-case form. -/
theorem Alphanumeric.lowercase_lowercase {text : String} (plain : Alphanumeric text) :
    Text.lowercase (Text.lowercase text) = Text.lowercase text := by
  have same : ∀ c ∈ text.toList, c.toLower.toLower = c.toLower := by
    intro c hmem
    exact (lower_of_isAlphanumeric (plain c hmem)).2.2.2
  refine String.toList_inj.mp ?_
  rw [toList_lowercase plain.lowercase, toList_lowercase plain, List.map_map]
  exact List.map_congr_left same

theorem Alphanumeric.slash_notMem {text : String} (plain : Alphanumeric text) :
    '/' ∉ text.toList := by
  intro hmem
  have slash := plain '/' hmem
  revert slash
  decide

end BlogGateway.Operation
