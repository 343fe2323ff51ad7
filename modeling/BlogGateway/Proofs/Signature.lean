/-
Which signatures are accepted.

A signature is looked at from the outside in: how long its text is, whether it is made of digits,
which header it has, and then what the curve says.  Each text comes to one of these ends and to no
other, and where it is made of digits all that counts is the bytes that they spell.  That no
signature has a twin, with the same first number and the negative of the second, is left to the
curve: it refuses the larger of the two second numbers, and of two that add up to the order, which
is odd, one is always the larger.
-/
import BlogGateway.Signature
import BlogGateway.Proofs.Bytes.HexSpelling

namespace BlogGateway.Signature

variable {curve : Curve} {digest digest' : Digest} {text text' : String} {header header' : UInt8}
  {numbers bytes : Bytes} {r s : Nat} {key key' : PublicKey}

/-- The text spells a header and two numbers of 32 bytes each. -/
inductive Spells (text : String) (header : UInt8) : Nat → Nat → Prop
  | mk {left right : Bytes} (left_length : left.length = 32) (right_length : right.length = 32)
      (digits : Hex.Spells text.toList (header :: (left ++ right))) :
      Spells text header left.toNat right.toNat

/-- The headers of the four kinds of signature. -/
def headers : List UInt8 := [31, 32, 33, 34]

/-- What a curve is relied on for: it refuses numbers that are not from one on and below the order,
and second numbers above the half of it. -/
def Strict (curve : Curve) : Prop :=
  ∀ z r s odd reduced, (r = 0 ∨ Secp256k1.order ≤ r ∨ s = 0 ∨ Secp256k1.order ≤ s ∨
    Secp256k1.order / 2 < s) → ∃ cause, curve z r s odd reduced = .error cause

theorem strict_recover : Strict Secp256k1.recover := by
  intro z r s odd reduced out
  have refused : (r = 0 || Secp256k1.order ≤ r || s = 0 || Secp256k1.order ≤ s ||
      Secp256k1.order / 2 < s) = true := by
    simpa [or_assoc] using out
  exact ⟨_, if_pos refused⟩

/-! ### Headers -/

/-- Only the four headers are by the number of a kind above the base: below the base the difference
wraps around to more than there are kinds. -/
theorem isSome_ofByte? : (RecoveryId.ofByte? (header - headerBase)).isSome ↔ header ∈ headers := by
  have difference : (header - headerBase).toNat = (256 - 31 + header.toNat) % 256 :=
    UInt8.toNat_sub ..
  have small := header.toNat_lt
  have listed : header ∈ headers ↔ 31 ≤ header.toNat ∧ header.toNat ≤ 34 := by
    simp only [headers, List.mem_cons, List.not_mem_nil, or_false, ← UInt8.toNat_inj,
      UInt8.reduceToNat]
    omega
  have none : 3 < header - headerBase ↔ 3 < (header - headerBase).toNat := UInt8.lt_iff_toNat_lt
  rw [listed, RecoveryId.ofByte?]
  split
  · rw [none] at *
    simp only [Option.isSome_none, Bool.false_eq_true, false_iff]
    omega
  · rw [none] at *
    simp only [Option.isSome_some, true_iff]
    omega

/-- What is refused by the first bound is no kind either. -/
theorem ofByte?_of_large {id : UInt8} (large : maxRecoveryId < id) :
    RecoveryId.ofByte? id = none :=
  if_pos (UInt8.lt_trans (by decide) large)

theorem recoverBytes_of_unknown (unknown : header ∉ headers) :
    recoverBytes curve digest (header :: numbers) = .error (.header header) := by
  have none : RecoveryId.ofByte? (header - headerBase) = none := by
    rw [← Option.not_isSome_iff_eq_none, isSome_ofByte?]
    exact unknown
  simp only [recoverBytes, none, ite_self]

/-- With one of the four headers, what the curve says is what counts. -/
theorem recoverBytes_of_known (known : header ∈ headers) : ∃ id : RecoveryId,
    (∃ x y, curve (Bytes.toNat digest) (Bytes.toNat (numbers.take 32))
        (Bytes.toNat (numbers.drop 32)) id.odd id.reduced = .ok (x, y) ∧
      recoverBytes curve digest (header :: numbers) = .ok (.ofPoint x y)) ∨
    (∃ cause, curve (Bytes.toNat digest) (Bytes.toNat (numbers.take 32))
        (Bytes.toNat (numbers.drop 32)) id.odd id.reduced = .error cause ∧
      recoverBytes curve digest (header :: numbers) = .error .recovery) := by
  obtain ⟨id, named⟩ := Option.isSome_iff_exists.mp (isSome_ofByte?.mpr known)
  have within : ¬ maxRecoveryId < header - headerBase := by
    intro large
    cases named.symm.trans (ofByte?_of_large large)
  refine ⟨id, ?_⟩
  simp only [recoverBytes, if_neg within, named]
  cases curve (Bytes.toNat digest) (Bytes.toNat (numbers.take 32)) (Bytes.toNat (numbers.drop 32))
    id.odd id.reduced with
  | ok point => exact .inl ⟨point.1, point.2, rfl, rfl⟩
  | error cause => exact .inr ⟨cause, rfl, rfl⟩

/-! ### Texts -/

/-- A text that spells a signature has its length. -/
theorem Spells.length (spells : Spells text header r s) : (Bytes.ofText text).length = 130 := by
  obtain ⟨left, right, digits⟩ := spells
  rw [Hex.length_ofText digits.digits, digits.length]
  simp [left, right]

theorem Spells.digits (spells : Spells text header r s) :
    ∀ c ∈ text.toList, (Hex.value? c).isSome := by
  cases spells with
  | mk _ _ digits => exact digits.digits

/-- A text of the right length that is made of digits spells a signature. -/
theorem exists_spells (length : (Bytes.ofText text).length = 130)
    (digits : ∀ c ∈ text.toList, (Hex.value? c).isSome) : ∃ header r s, Spells text header r s := by
  rw [Hex.length_ofText digits] at length
  obtain ⟨bytes, spells⟩ := Hex.exists_spells digits (by rw [length])
  rw [spells.length] at length
  cases bytes with
  | nil => cases length
  | cons header numbers =>
      have count : numbers.length = 64 := by
        rw [List.length_cons] at length
        omega
      rw [← List.take_append_drop 32 numbers] at spells
      exact ⟨header, _, _, .mk (by simp [count]) (by simp [count]) spells⟩

/-- What a signature is recovered from is what its text spells. -/
theorem recoverOn_of_spells (curve : Curve) (digest : Digest) (spells : Spells text header r s) :
    ∃ left right : Bytes, left.length = 32 ∧ left.toNat = r ∧ right.toNat = s ∧
      recoverOn curve digest text = recoverBytes curve digest (header :: (left ++ right)) := by
  have length : (Bytes.ofText text).length = hexLength := spells.length
  obtain ⟨left, right, digits⟩ := spells
  refine ⟨_, _, left, rfl, rfl, ?_⟩
  simp only [recoverOn, length, ne_eq, not_true_eq_false, ↓reduceIte,
    Hex.decode_eq_ok_iff.mpr digits]

/-- The ends that a text can come to. -/
inductive Ends (text : String) : Except Error PublicKey → Prop
  | length (other : (Bytes.ofText text).length ≠ 130) :
      Ends text (.error (.length (Bytes.ofText text).length))
  | notHex {cause : Hex.Error} {c : Char} (length : (Bytes.ofText text).length = 130)
      (hmem : c ∈ text.toList) (other : Hex.value? c = none) : Ends text (.error (.notHex cause))
  | header {header : UInt8} {r s : Nat} (spells : Spells text header r s)
      (unknown : header ∉ headers) : Ends text (.error (.header header))
  | recovery {header : UInt8} {r s : Nat} (spells : Spells text header r s)
      (known : header ∈ headers) : Ends text (.error .recovery)
  | key {header : UInt8} {r s : Nat} {key : PublicKey} (spells : Spells text header r s)
      (known : header ∈ headers) : Ends text (.ok key)

/-- Every text comes to one of the ends. -/
theorem ends (curve : Curve) (digest : Digest) (text : String) :
    Ends text (recoverOn curve digest text) := by
  by_cases length : (Bytes.ofText text).length = 130
  · by_cases digits : ∀ c ∈ text.toList, (Hex.value? c).isSome
    · obtain ⟨header, r, s, spells⟩ := exists_spells length digits
      obtain ⟨left, right, -, -, -, same⟩ := recoverOn_of_spells curve digest spells
      rw [same]
      by_cases known : header ∈ headers
      · obtain ⟨id, ⟨x, y, -, h⟩ | ⟨cause, -, h⟩⟩ := recoverBytes_of_known known
        · rw [h]
          exact .key spells known
        · rw [h]
          exact .recovery spells known
      · rw [recoverBytes_of_unknown known]
        exact .header spells known
    · simp only [not_forall, Option.not_isSome_iff_eq_none, exists_prop] at digits
      obtain ⟨c, hmem, other⟩ := digits
      have whole : ¬ (Bytes.ofText text).length ≠ hexLength := not_not_intro length
      simp only [recoverOn, if_neg whole]
      cases decoded : Hex.decode (Bytes.ofText text) with
      | error cause => exact .notHex length hmem other
      | ok bytes =>
          have digit := Hex.digits_of_decode decoded c hmem
          rw [other] at digit
          cases digit
  · have other : (Bytes.ofText text).length ≠ hexLength := length
    simp only [recoverOn, if_pos other]
    exact .length length

/-! ### Which end a text comes to -/

theorem recoverOn_eq_length_iff {count : Nat} :
    recoverOn curve digest text = .error (.length count) ↔
      (Bytes.ofText text).length = count ∧ count ≠ 130 := by
  constructor
  · intro h
    have ends := h ▸ ends curve digest text
    cases ends with
    | length other => exact ⟨rfl, other⟩
  · rintro ⟨rfl, other⟩
    exact if_pos other

theorem recoverOn_eq_notHex_iff :
    (∃ cause, recoverOn curve digest text = .error (.notHex cause)) ↔
      (Bytes.ofText text).length = 130 ∧ ∃ c ∈ text.toList, Hex.value? c = none := by
  constructor
  · rintro ⟨cause, h⟩
    have ends := h ▸ ends curve digest text
    cases ends with
    | notHex length hmem other => exact ⟨length, _, hmem, other⟩
  · rintro ⟨length, c, hmem, other⟩
    have unspelled (header : UInt8) (r s : Nat) : ¬ Spells text header r s := by
      intro spells
      have digit := spells.digits c hmem
      rw [other] at digit
      cases digit
    have ends := ends curve digest text
    generalize recoverOn curve digest text = result at ends
    cases ends with
    | length wrong => exact absurd length wrong
    | notHex => exact ⟨_, rfl⟩
    | header spells | recovery spells | key spells => exact absurd spells (unspelled _ _ _)

theorem recoverOn_eq_header_iff :
    recoverOn curve digest text = .error (.header header) ↔
      (∃ r s, Spells text header r s) ∧ header ∉ headers := by
  constructor
  · intro h
    have ends := h ▸ ends curve digest text
    cases ends with
    | header spells unknown => exact ⟨⟨_, _, spells⟩, unknown⟩
  · rintro ⟨⟨r, s, spells⟩, unknown⟩
    obtain ⟨left, right, -, -, -, same⟩ := recoverOn_of_spells curve digest spells
    rw [same, recoverBytes_of_unknown unknown]

theorem recoverOn_reaches_curve_iff :
    ((∃ key, recoverOn curve digest text = .ok key) ∨
        recoverOn curve digest text = .error .recovery) ↔
      ∃ header r s, Spells text header r s ∧ header ∈ headers := by
  constructor
  · rintro (⟨key, h⟩ | h)
    · have ends := h ▸ ends curve digest text
      cases ends with
      | key spells known => exact ⟨_, _, _, spells, known⟩
    · have ends := h ▸ ends curve digest text
      cases ends with
      | recovery spells known => exact ⟨_, _, _, spells, known⟩
  · rintro ⟨header, r, s, spells, known⟩
    obtain ⟨left, right, -, -, -, same⟩ := recoverOn_of_spells curve digest spells
    rw [same]
    obtain ⟨id, ⟨x, y, -, h⟩ | ⟨cause, -, h⟩⟩ := recoverBytes_of_known known
    · exact .inl ⟨_, h⟩
    · exact .inr h

/-- Texts that spell the same bytes come to the same end. -/
theorem recoverOn_congr (digits : Hex.Spells text.toList bytes)
    (digits' : Hex.Spells text'.toList bytes) :
    recoverOn curve digest text = recoverOn curve digest text' := by
  have length : (Bytes.ofText text).length = (Bytes.ofText text').length := by
    rw [Hex.length_ofText digits.digits, Hex.length_ofText digits'.digits, digits.length,
      digits'.length]
  simp only [recoverOn, length, Hex.decode_eq_ok_iff.mpr digits, Hex.decode_eq_ok_iff.mpr digits']

/-! ### Twins -/

/-- A curve that accepts a signature has been given numbers in their range. -/
theorem Strict.range (strict : Strict curve) {z : Nat} {odd reduced : Bool} {point : Nat × Nat}
    (accepted : curve z r s odd reduced = .ok point) : 0 < s ∧ s ≤ Secp256k1.order / 2 := by
  refine ⟨Nat.pos_of_ne_zero fun zero => ?_, Nat.le_of_not_lt fun large => ?_⟩
  · obtain ⟨cause, refused⟩ := strict z r s odd reduced (.inr (.inr (.inl zero)))
    cases refused.symm.trans accepted
  · obtain ⟨cause, refused⟩ := strict z r s odd reduced (.inr (.inr (.inr (.inr large))))
    cases refused.symm.trans accepted

/-- What is recovered from a text has been accepted by the curve. -/
theorem exists_accepted (spells : Spells text header r s)
    (accepted : recoverOn curve digest text = .ok key) :
    ∃ (id : RecoveryId) (point : Nat × Nat),
      curve (Bytes.toNat digest) r s id.odd id.reduced = .ok point := by
  obtain ⟨left, right, length, rfl, rfl, same⟩ := recoverOn_of_spells curve digest spells
  rw [same] at accepted
  by_cases known : header ∈ headers
  · have first : (left ++ right).take 32 = left := length ▸ List.take_left
    have second : (left ++ right).drop 32 = right := length ▸ List.drop_left
    obtain ⟨id, ⟨x, y, found, -⟩ | ⟨cause, -, refused⟩⟩ := recoverBytes_of_known known
    · rw [first, second] at found
      exact ⟨id, (x, y), found⟩
    · cases refused.symm.trans accepted
  · cases (recoverBytes_of_unknown known).symm.trans accepted

/-- **No signature has a twin.** -/
theorem Strict.not_twin (strict : Strict curve) (spells : Spells text header r s)
    (accepted : recoverOn curve digest text = .ok key)
    (twin : Spells text' header' r (Secp256k1.order - s)) :
    recoverOn curve digest' text' ≠ .ok key' := by
  intro accepted'
  obtain ⟨id, point, found⟩ := exists_accepted spells accepted
  obtain ⟨id', point', found'⟩ := exists_accepted twin accepted'
  have range := strict.range found
  have range' := strict.range found'
  have odd : Secp256k1.order = 2 * (Secp256k1.order / 2) + 1 := by decide
  omega

theorem verifyAny_iff {keys : List PublicKey} :
    verifyAny keys text digest = true ↔ ∃ key ∈ keys, recover digest text = .ok key := by
  unfold verifyAny
  cases recover digest text with
  | error cause => simp
  | ok key => simp

/--
**Which signatures are accepted.**

A text of other than 130 bytes is refused for its length, and one of 130 bytes with a character that
is no digit is refused as no hexadecimal.  Any other spells a header and two numbers.  With a header
that is none of the four it is refused for the header, and with one of the four a key is recovered
or none can be.  Texts that spell the same bytes come to the same end, as do those that differ in
the case of letters only.  When a text is accepted on a curve that is strict, no text with the same
first number and the negative of the second is accepted, whatever its header and for whatever hash.
A signature is that of one of some keys when one of them is recovered from it.
-/
theorem acceptance (curve : Curve) (digest : Digest) (text : String) :
    (∀ count, recoverOn curve digest text = .error (.length count) ↔
      (Bytes.ofText text).length = count ∧ count ≠ 130) ∧
    ((∃ cause, recoverOn curve digest text = .error (.notHex cause)) ↔
      (Bytes.ofText text).length = 130 ∧ ∃ c ∈ text.toList, Hex.value? c = none) ∧
    (∀ header, recoverOn curve digest text = .error (.header header) ↔
      (∃ r s, Spells text header r s) ∧ header ∉ headers) ∧
    (((∃ key, recoverOn curve digest text = .ok key) ∨
        recoverOn curve digest text = .error .recovery) ↔
      ∃ header r s, Spells text header r s ∧ header ∈ headers) ∧
    (∀ text' bytes, Hex.Spells text.toList bytes →
      (Hex.Spells text'.toList bytes ∨
        text.toList.map Char.toLower = text'.toList.map Char.toLower) →
      recoverOn curve digest text = recoverOn curve digest text') ∧
    (Strict curve → ∀ header r s key, Spells text header r s →
      recoverOn curve digest text = .ok key →
      ∀ digest' text' header', Spells text' header' r (Secp256k1.order - s) →
        ∀ key', recoverOn curve digest' text' ≠ .ok key') ∧
    ∀ keys, verifyAny keys text digest = true ↔ ∃ key ∈ keys, recover digest text = .ok key := by
  refine ⟨fun count => recoverOn_eq_length_iff, recoverOn_eq_notHex_iff,
    fun header => recoverOn_eq_header_iff, recoverOn_reaches_curve_iff, ?_, ?_,
    fun keys => verifyAny_iff⟩
  · rintro text' bytes digits (digits' | same)
    · exact recoverOn_congr digits digits'
    · exact recoverOn_congr digits (digits.of_lower same)
  · intro strict header r s key spells accepted digest' text' header' twin key'
    exact strict.not_twin spells accepted twin

/-- A hash that a signature was made over. -/
private def signedHash : Digest :=
  Bytes.ofNatWidth 32 0x28e55f6ef3d8010caa64b74c0d4ff2e792f5f158170dcb04a2efec0dfec5e4d0

/-- The two numbers of that signature. -/
private def signedLeft : Nat := 0x65116880dd659a9709956e9409095fa0c2e282fefe2c6511d4fad2b8301cf09b

private def signedRight : Nat := 0x1ee9473100a504e08091acdbc8cd1042e857d637a506720d2b35a6976b1afe99

private def signedText (header : UInt8) (right : Nat) : String :=
  Hex.text (header :: (Bytes.ofNatWidth 32 signedLeft ++ Bytes.ofNatWidth 32 right))

private theorem spells_signedText {right : Nat}
    (left_bytes : (Bytes.ofNatWidth 32 signedLeft).toNat = signedLeft)
    (right_bytes : (Bytes.ofNatWidth 32 right).toNat = right)
    (decoded : (Hex.decode (Bytes.ofText (signedText header right))).toOption
      = some (header :: (Bytes.ofNatWidth 32 signedLeft ++ Bytes.ofNatWidth 32 right))) :
    Spells (signedText header right) header signedLeft right := by
  have digits := Hex.decode_eq_ok_iff.mp (Except.eq_ok_of_toOption decoded)
  have spells := Spells.mk (PublicKey.length_ofNatWidth 32 _) (PublicKey.length_ofNatWidth 32 _)
    digits
  rwa [left_bytes, right_bytes] at spells

/-- The signature is accepted, and its twin is not, with any header and for any hash. -/
theorem twin_refused :
    (∃ key, recover signedHash (signedText 31 signedRight) = .ok key) ∧
      ∀ digest key, recover digest (signedText 32 (Secp256k1.order - signedRight)) ≠ .ok key := by
  have left : (Bytes.ofNatWidth 32 signedLeft).toNat = signedLeft := by decide +kernel
  have spells : Spells (signedText 31 signedRight) 31 signedLeft signedRight :=
    spells_signedText left (by decide +kernel) (by decide +kernel)
  have twin : Spells (signedText 32 (Secp256k1.order - signedRight)) 32 signedLeft
      (Secp256k1.order - signedRight) :=
    spells_signedText left (by decide +kernel) (by decide +kernel)
  have found : (recover signedHash (signedText 31 signedRight)).toOption.isSome := by
    decide +kernel
  obtain ⟨key, accepted⟩ := Option.isSome_iff_exists.mp found
  have accepted := Except.eq_ok_of_toOption accepted
  obtain ⟨-, -, -, -, -, apart, -⟩ :=
    acceptance Secp256k1.recover signedHash (signedText 31 signedRight)
  exact ⟨⟨key, accepted⟩, fun digest key' =>
    apart strict_recover _ _ _ _ spells accepted digest _ _ twin key'⟩

end BlogGateway.Signature
