/-
Items that tell where they end.

The canonical bytes have no marks between items, so taking them apart again rests on every
item showing by itself where it stops.  `SelfDelimiting` says that in the form that carries
through sequences: when two encodings, each followed by anything at all, are the same bytes,
then the encoded values are the same and so is what follows.  With nothing to follow that is
injectivity, and with something on one side only it says that no encoding is a proper
beginning of another.

Whole numbers of fixed width are self-delimiting because their length is known, groups of
seven bits because only the last has a clear high bit, and a text because its length is in
front.
-/
import BlogGateway.Proofs.Bytes.Utf8
import BlogGateway.Wire

namespace BlogGateway.Wire

/-- Encoded values can be told apart, and from what follows them. -/
def SelfDelimiting {α : Type} (encode : α → Bytes) : Prop :=
  ∀ ⦃a b : α⦄ ⦃s t : Bytes⦄, encode a ++ s = encode b ++ t → a = b ∧ s = t

namespace SelfDelimiting

variable {α β : Type} {encode : α → Bytes}

/-- Encodings of one length are told apart by being different. -/
theorem of_length {n : Nat} (hlen : ∀ a, (encode a).length = n)
    (hinj : ∀ a b, encode a = encode b → a = b) : SelfDelimiting encode := by
  intro a b s t h
  obtain ⟨hab, hst⟩ := List.append_inj h ((hlen a).trans (hlen b).symm)
  exact ⟨hinj a b hab, hst⟩

theorem comap (hencode : SelfDelimiting encode) {f : β → α} (hf : ∀ a b, f a = f b → a = b) :
    SelfDelimiting fun b => encode (f b) := by
  intro a b s t h
  obtain ⟨hab, hst⟩ := hencode h
  exact ⟨hf a b hab, hst⟩

theorem injective (hencode : SelfDelimiting encode) {a b : α} (h : encode a = encode b) :
    a = b :=
  (hencode (s := []) (t := []) (by rw [h])).1

end SelfDelimiting

/-! ### Groups of seven bits -/

theorem toNat_toUInt8 {n : Nat} (h : n < 256) : n.toUInt8.toNat = n := by
  simp
  omega

theorem varint_of_lt {n : Nat} (h : n < 128) : varint n = [n.toUInt8] := by
  rw [varint, if_pos h]

theorem varint_zero : varint 0 = [0] := varint_of_lt (by decide)

theorem varint_of_ge {n : Nat} (h : ¬ n < 128) :
    varint n = (n % 128 + 128).toUInt8 :: varint (n / 128) := by
  rw [varint, if_neg h]

/-- Only the last byte of a number is below 128. -/
theorem varint_eq_append (n : Nat) :
    ∃ front last, varint n = front ++ [last] ∧ (∀ b ∈ front, 128 ≤ b.toNat) ∧
      last.toNat < 128 := by
  induction n using Nat.strongRecOn with
  | ind n ih =>
      by_cases h : n < 128
      · refine ⟨[], n.toUInt8, varint_of_lt h, by simp, ?_⟩
        rw [toNat_toUInt8 (by omega)]
        exact h
      · obtain ⟨front, last, hsplit, hfront, hlast⟩ := ih (n / 128) (by omega)
        refine ⟨(n % 128 + 128).toUInt8 :: front, last, ?_, ?_, hlast⟩
        · rw [varint_of_ge h, hsplit]
          rfl
        · intro b hb
          rcases List.mem_cons.mp hb with rfl | hb'
          · rw [toNat_toUInt8 (by omega)]
            omega
          · exact hfront b hb'

theorem varint_ne_nil (n : Nat) : varint n ≠ [] := by
  obtain ⟨front, last, split, -⟩ := varint_eq_append n
  rw [split]
  exact List.append_ne_nil_of_right_ne_nil _ (List.cons_ne_nil _ _)

/-- Numbers are told apart group by group: the low groups agree, and so by induction do the
numbers without them. -/
theorem selfDelimiting_varint : SelfDelimiting varint := by
  intro m
  induction m using Nat.strongRecOn with
  | ind m ih =>
      intro n s t h
      by_cases hm : m < 128
      · by_cases hn : n < 128
        · rw [varint_of_lt hm, varint_of_lt hn] at h
          obtain ⟨hbyte, hrest⟩ := List.cons.inj h
          have hval := congrArg UInt8.toNat hbyte
          rw [toNat_toUInt8 (by omega), toNat_toUInt8 (by omega)] at hval
          exact ⟨hval, hrest⟩
        · rw [varint_of_lt hm, varint_of_ge hn] at h
          have hval := congrArg UInt8.toNat (List.cons.inj h).1
          rw [toNat_toUInt8 (by omega), toNat_toUInt8 (by omega)] at hval
          omega
      · by_cases hn : n < 128
        · rw [varint_of_ge hm, varint_of_lt hn] at h
          have hval := congrArg UInt8.toNat (List.cons.inj h).1
          rw [toNat_toUInt8 (by omega), toNat_toUInt8 (by omega)] at hval
          omega
        · rw [varint_of_ge hm, varint_of_ge hn] at h
          obtain ⟨hbyte, hrest⟩ := List.cons.inj h
          have hval := congrArg UInt8.toNat hbyte
          rw [toNat_toUInt8 (by omega), toNat_toUInt8 (by omega)] at hval
          obtain ⟨hdiv, hst⟩ := ih (m / 128) (by omega) hrest
          exact ⟨by omega, hst⟩

/-- A number is in front as a whole when a byte below 128 is: a byte like that inside the
number can only be its last. -/
theorem split_of_varint_append {n : Nat} {b : UInt8} {before after s : Bytes}
    (h : varint n ++ s = before ++ after) (hmem : b ∈ before) (hb : b.toNat < 128) :
    ∃ more, before = varint n ++ more ∧ s = more ++ after := by
  rcases List.append_eq_append_iff.mp h with ⟨more, hbefore, hs⟩ | ⟨more, hvarint, hafter⟩
  · exact ⟨more, hbefore, hs⟩
  · obtain ⟨front, last, hsplit, hfront, -⟩ := varint_eq_append n
    rcases List.eq_nil_or_concat more with rfl | ⟨more', last', rfl⟩
    · exact ⟨[], by simpa using hvarint.symm, by simpa using hafter.symm⟩
    · exfalso
      -- All that comes before the last byte is 128 or more.
      rw [hsplit, List.concat_eq_append, ← List.append_assoc] at hvarint
      have hfront' : front = before ++ more' := (List.append_inj' hvarint rfl).1
      have := hfront b (by rw [hfront']; simp [hmem])
      omega

/-! ### Items of fixed width -/

theorem length_uint16 (n : UInt16) : (uint16 n).length = 2 := rfl

theorem length_uint32 (n : UInt32) : (uint32 n).length = 4 := rfl

theorem selfDelimiting_uint16 : SelfDelimiting uint16 := by
  refine .of_length length_uint16 fun m n h => ?_
  simp only [uint16, List.cons.injEq, and_true] at h
  have h0 := congrArg UInt8.toNat h.1
  have h1 := congrArg UInt8.toNat h.2
  simp only [UInt16.toNat_toUInt8, UInt16.toNat_shiftRight, Nat.shiftRight_eq_div_pow] at h0 h1
  have hm := m.toNat_lt
  have hn := n.toNat_lt
  apply UInt16.toNat_inj.mp
  simp at h1
  omega

theorem selfDelimiting_uint32 : SelfDelimiting uint32 := by
  refine .of_length length_uint32 fun m n h => ?_
  simp only [uint32, List.cons.injEq, and_true] at h
  obtain ⟨h0, h1, h2, h3⟩ := h
  have e0 := congrArg UInt8.toNat h0
  have e1 := congrArg UInt8.toNat h1
  have e2 := congrArg UInt8.toNat h2
  have e3 := congrArg UInt8.toNat h3
  simp [Nat.shiftRight_eq_div_pow] at e0 e1 e2 e3
  have hm := m.toNat_lt
  have hn := n.toNat_lt
  apply UInt32.toNat_inj.mp
  omega

/-- Any two bytes are a number. -/
theorem exists_uint16 {bytes : Bytes} (h : bytes.length = 2) : ∃ n, bytes = uint16 n := by
  match bytes, h with
  | [b0, b1], _ =>
      refine ⟨UInt16.ofNat (b0.toNat + b1.toNat * 256), ?_⟩
      have h0 := b0.toNat_lt
      have h1 := b1.toNat_lt
      simp only [uint16, List.cons.injEq, and_true, ← UInt8.toNat_inj, UInt16.toNat_toUInt8,
        UInt16.toNat_shiftRight, UInt16.toNat_ofNat', Nat.shiftRight_eq_div_pow]
      refine ⟨?_, ?_⟩
      · omega
      · simp
        omega

/-- Any four bytes are a number. -/
theorem exists_uint32 {bytes : Bytes} (h : bytes.length = 4) : ∃ n, bytes = uint32 n := by
  match bytes, h with
  | [b0, b1, b2, b3], _ =>
      refine ⟨UInt32.ofNat
        (b0.toNat + b1.toNat * 256 + b2.toNat * 65536 + b3.toNat * 16777216), ?_⟩
      have h0 := b0.toNat_lt
      have h1 := b1.toNat_lt
      have h2 := b2.toNat_lt
      have h3 := b3.toNat_lt
      simp only [uint32, List.cons.injEq, and_true, ← UInt8.toNat_inj, UInt32.toNat_toUInt8,
        UInt32.toNat_shiftRight, UInt32.toNat_ofNat', Nat.shiftRight_eq_div_pow]
      refine ⟨?_, ?_, ?_, ?_⟩ <;> simp <;> omega

theorem selfDelimiting_flag : SelfDelimiting flag := by
  refine .of_length (n := 1) (fun _ => rfl) fun a b h => ?_
  cases a <;> cases b <;> simp_all [flag]

/-! ### Items behind their length -/

theorem selfDelimiting_prefixed : SelfDelimiting prefixed := by
  intro a b s t h
  unfold prefixed at h
  rw [List.append_assoc, List.append_assoc] at h
  obtain ⟨hlen, hrest⟩ := selfDelimiting_varint h
  exact List.append_inj hrest hlen

theorem selfDelimiting_text : SelfDelimiting text :=
  selfDelimiting_prefixed.comap fun _ _ h => Bytes.ofText_injective h

theorem getLast?_prefixed {content : Bytes} (h : content ≠ []) :
    (prefixed content).getLast? = content.getLast? :=
  List.getLast?_append_of_ne_nil _ h

theorem prefixed_ne_nil {content : Bytes} (h : content ≠ []) : prefixed content ≠ [] :=
  List.append_ne_nil_of_right_ne_nil _ h

/-! ### Lists of known length -/

namespace SelfDelimiting

variable {α : Type} {encode : α → Bytes}

/-- Lists of one length are told apart element by element. -/
theorem flatMap (hencode : SelfDelimiting encode) :
    ∀ {as bs : List α} {s t : Bytes}, as.length = bs.length →
      as.flatMap encode ++ s = bs.flatMap encode ++ t → as = bs ∧ s = t := by
  intro as
  induction as with
  | nil =>
      intro bs s t hlen h
      have hbs : bs = [] := List.length_eq_zero_iff.mp hlen.symm
      subst hbs
      exact ⟨rfl, by simpa using h⟩
  | cons a as ih =>
      intro bs s t hlen h
      cases bs with
      | nil => simp at hlen
      | cons b bs =>
          rw [List.flatMap_cons, List.flatMap_cons, List.append_assoc, List.append_assoc] at h
          obtain ⟨hab, hrest⟩ := hencode h
          obtain ⟨hasbs, hst⟩ := ih (by simpa using hlen) hrest
          exact ⟨by rw [hab, hasbs], hst⟩

/-- Lists with nothing behind them are told apart without their length, when no element is
encoded as nothing. -/
theorem flatMap_injective (hencode : SelfDelimiting encode) (some : ∀ a, encode a ≠ [])
    {as bs : List α} (h : as.flatMap encode = bs.flatMap encode) : as = bs := by
  induction as generalizing bs with
  | nil =>
      cases bs with
      | nil => rfl
      | cons b bs =>
          rw [List.flatMap_nil, List.flatMap_cons] at h
          exact absurd (List.append_eq_nil_iff.mp h.symm).1 (some b)
  | cons a as ih =>
      cases bs with
      | nil =>
          rw [List.flatMap_nil, List.flatMap_cons] at h
          exact absurd (List.append_eq_nil_iff.mp h).1 (some a)
      | cons b bs =>
          rw [List.flatMap_cons, List.flatMap_cons] at h
          obtain ⟨hab, hrest⟩ := hencode h
          rw [hab, ih hrest]

end SelfDelimiting

end BlogGateway.Wire
