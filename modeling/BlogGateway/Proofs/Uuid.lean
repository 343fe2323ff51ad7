/-
Identifiers are read back from what is written.

An identifier is written as 32 hexadecimal digits with four hyphens between them.  Reading
drops the hyphens and folds the digits, and after `k` digits the fold holds the value without
its last `32 - k` digits; so behind the last digit it holds the value.
-/
import BlogGateway.Proofs.Bytes.Hex
import BlogGateway.Proofs.Bytes.Utf8
import BlogGateway.Uuid

namespace BlogGateway.Uuid

/-! ### The digits -/

/-- The weight of the digit with `k` digits behind it. -/
private def weight (k : Nat) : Nat := Nat.pow 16 k

private theorem weight_succ (k : Nat) : weight (k + 1) = weight k * 16 := rfl

/-- The digit at a place, the highest first. -/
private def digitAt (n i : Nat) : UInt8 := ((n / weight (31 - i)) % 16).toUInt8

private theorem toNat_digitAt (n i : Nat) : (digitAt n i).toNat = n / weight (31 - i) % 16 := by
  unfold digitAt
  simp
  omega

private theorem digits_eq (id : Uuid) :
    id.digits = (List.range 32).map fun i => Ascii.hexDigit (digitAt id.value.toNat i) := rfl

theorem length_digits (id : Uuid) : id.digits.length = 32 := by
  rw [digits_eq, List.length_map, List.length_range]

theorem digits_ascii (id : Uuid) : ∀ b ∈ id.digits, b.toNat < 128 := by
  intro b hb
  rw [digits_eq, List.mem_map] at hb
  obtain ⟨i, -, rfl⟩ := hb
  refine Ascii.hexDigit_lt ?_
  rw [toNat_digitAt]
  exact Nat.mod_lt _ (by decide)

/-- The fold behind the first `k` digits of a value that has 32. -/
private theorem foldlM_digits {n : Nat} (hn : n < weight 32) :
    ∀ k, k ≤ 32 →
      ((List.range k).map fun i => Ascii.hexDigit (digitAt n i)).foldlM
          (fun (acc : Nat) b => (Ascii.hexValue? b).map (acc * 16 + ·.toNat)) 0
        = some (n / weight (32 - k)) := by
  intro k
  induction k with
  | zero =>
      intro _
      show some 0 = some (n / weight 32)
      rw [Nat.div_eq_of_lt hn]
  | succ k ih =>
      intro hk
      have hlt : (digitAt n k).toNat < 16 := by
        rw [toNat_digitAt]
        exact Nat.mod_lt _ (by decide)
      rw [List.range_succ, List.map_append, List.foldlM_append, ih (by omega)]
      simp only [List.map_cons, List.map_nil, List.foldlM_cons, List.foldlM_nil,
        Ascii.hexValue?_hexDigit hlt, Option.map_some, Option.bind_eq_bind, Option.bind_some]
      have hweight : weight (32 - k) = weight (31 - k) * 16 := by
        rw [← weight_succ]
        congr 1
        omega
      rw [toNat_digitAt, hweight, ← Nat.div_div_eq_div_mul,
        show 32 - (k + 1) = 31 - k by omega]
      show some (n / weight (31 - k) / 16 * 16 + n / weight (31 - k) % 16) = _
      rw [Nat.div_add_mod']

theorem ofDigits?_digits (id : Uuid) : ofDigits? id.digits = some id := by
  unfold ofDigits?
  rw [if_pos (length_digits id), digits_eq,
    foldlM_digits id.value.isLt 32 (Nat.le_refl _)]
  simp [weight]

/-! ### The written form -/

/-- Reading drops the hyphens again. -/
private theorem ofHyphenated?_groups {a b c d e : Bytes} (ha : a.length = 8)
    (hb : b.length = 4) (hc : c.length = 4) (hd : d.length = 4) (he : e.length = 12) :
    ofHyphenated? (a ++ Ascii.minus :: b ++ Ascii.minus :: c ++ Ascii.minus :: d
        ++ Ascii.minus :: e)
      = ofDigits? (a ++ b ++ c ++ d ++ e) := by
  unfold ofHyphenated?
  simp (disch := omega) [ha, hb, hc, hd, he, List.drop_append, List.drop_eq_nil_of_le,
    List.getElem?_append, List.getElem?_cons_zero]

/-- The groups that are written are all digits in their order. -/
private theorem join_groups (l : Bytes) :
    l.take 8 ++ (l.drop 8).take 4 ++ (l.drop 12).take 4 ++ (l.drop 16).take 4 ++ l.drop 20
      = l := by
  have join : ∀ n m, (l.drop n).take m ++ l.drop (n + m) = l.drop n := by
    intro n m
    rw [← List.drop_drop, List.take_append_drop]
  rw [List.append_assoc, join 16 4, List.append_assoc, join 12 4, List.append_assoc, join 8 4,
    List.take_append_drop]

theorem length_bytes (id : Uuid) : id.bytes.length = 36 := by
  simp [bytes, length_digits]

theorem ofBytes?_bytes (id : Uuid) : ofBytes? id.bytes = some id := by
  have hlen := length_digits id
  unfold ofBytes?
  rw [if_neg (by rw [length_bytes]; decide), if_pos (length_bytes id)]
  unfold bytes
  rw [ofHyphenated?_groups (by simp [hlen]) (by simp [hlen]) (by simp [hlen])
    (by simp [hlen]) (by simp [hlen]), join_groups, ofDigits?_digits]

theorem bytes_ascii (id : Uuid) : ∀ b ∈ id.bytes, b.toNat < 128 := by
  intro b hb
  have hdigit := digits_ascii id b
  simp only [bytes, List.append_assoc, List.cons_append, List.mem_append, List.mem_cons] at hb
  rcases hb with h | rfl | h | rfl | h | rfl | h | rfl | h
  · exact hdigit (List.mem_of_mem_take h)
  · decide
  · exact hdigit (List.mem_of_mem_drop (List.mem_of_mem_take h))
  · decide
  · exact hdigit (List.mem_of_mem_drop (List.mem_of_mem_take h))
  · decide
  · exact hdigit (List.mem_of_mem_drop (List.mem_of_mem_take h))
  · decide
  · exact hdigit (List.mem_of_mem_drop h)

/-- **An identifier is read back from its written form.** -/
theorem ofText?_text (id : Uuid) : ofText? id.text = some id := by
  unfold ofText? text
  rw [Bytes.ofText_ofAscii (bytes_ascii id), ofBytes?_bytes]

theorem text_injective {a b : Uuid} (h : a.text = b.text) : a = b := by
  have := congrArg ofText? h
  simpa [ofText?_text] using this

end BlogGateway.Uuid
