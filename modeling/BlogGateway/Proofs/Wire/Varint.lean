/-
Numbers in groups of seven bits.

A number is pushed group by group onto the bytes that are there, as a word from which seven bits
are shifted out at a time.  What is pushed are the groups of `varint`, which is said of the number
and not of the word, so everything else is said of `varint`.

Taking the groups off again gives the number back and leaves what follows.  Other bytes may give
the same number, since a group that is zero can be added at the high end; `varint` has no such
group, and that makes it the shortest way to write the number and the only one of its length.
-/
import BlogGateway.Proofs.Wire.SelfDelimiting
import Mathlib.Data.Nat.Size

namespace BlogGateway.Wire

variable {n : Nat} {bytes : Bytes}

/-- Takes a number off the front: the groups up to the first byte without the high bit, low group
first, and what follows them. -/
def takeVarint : Bytes → Option (Nat × Bytes)
  | [] => none
  | b :: s =>
    if b < 128 then some (b.toNat, s)
    else (takeVarint s).map fun (high, rest) => (b.toNat % 128 + 128 * high, rest)

/-! ### Groups of a word -/

theorem toNat_group (value : UInt64) : (value &&& 0x7F).toUInt8.toNat = value.toNat % 128 := by
  have mask : value.toNat &&& (0x7F : UInt64).toNat = value.toNat % 2 ^ 7 :=
    Nat.and_two_pow_sub_one_eq_mod value.toNat 7
  rw [UInt64.toNat_toUInt8, UInt64.toNat_and, mask]
  omega

theorem toNat_left (value : UInt64) : (value >>> 7).toNat = value.toNat / 128 := by
  rw [UInt64.toNat_shiftRight, Nat.shiftRight_eq_div_pow]
  rfl

theorem toNat_marked {group : UInt8} (small : group.toNat < 128) :
    (group ||| 0x80).toNat = group.toNat + 128 := by
  have apart := Nat.two_pow_add_eq_or_of_lt (i := 7) small 1
  rw [UInt8.toNat_or, Nat.or_comm]
  show 2 ^ 7 * 1 ||| group.toNat = _
  rw [← apart, Nat.add_comm]

/-- What is pushed are the groups of the number, and what was there stays in front of them. -/
theorem pushVarint_eq (buffer : Bytes) (value : UInt64) :
    pushVarint buffer value = buffer ++ varint value.toNat := by
  fun_induction pushVarint buffer value with
  | case1 buffer value group left ended =>
      have small : value.toNat < 128 := by
        have zero : value.toNat / 128 = 0 := toNat_left value ▸ congrArg UInt64.toNat ended
        omega
      have same : group = value.toNat.toUInt8 := by
        apply UInt8.toNat_inj.mp
        rw [toNat_group, toNat_toUInt8 (by omega), Nat.mod_eq_of_lt small]
      rw [varint_of_lt small, same]
  | case2 buffer value group left more ih =>
      have large : ¬ value.toNat < 128 := by
        intro small
        apply more
        apply UInt64.toNat_inj.mp
        rw [toNat_left, Nat.div_eq_of_lt small]
        rfl
      have byte : group ||| 0x80 = (value.toNat % 128 + 128).toUInt8 := by
        apply UInt8.toNat_inj.mp
        rw [toNat_marked (by rw [toNat_group]; omega), toNat_group, toNat_toUInt8 (by omega)]
      rw [ih, toNat_left, varint_of_ge large, byte, List.append_assoc, List.singleton_append]

/-! ### Taking a number off -/

theorem takeVarint_last {b : UInt8} (last : b.toNat < 128) (rest : Bytes) :
    takeVarint (b :: rest) = some (b.toNat, rest) :=
  if_pos (UInt8.lt_iff_toNat_lt.mpr last)

theorem takeVarint_more {b : UInt8} (more : 128 ≤ b.toNat) (rest : Bytes) :
    takeVarint (b :: rest)
      = (takeVarint rest).map fun (high, rest) => (b.toNat % 128 + 128 * high, rest) :=
  if_neg fun last => Nat.not_lt.mpr more (UInt8.lt_iff_toNat_lt.mp last)

/-- The number is taken off the front of whatever follows it. -/
theorem takeVarint_varint (n : Nat) (rest : Bytes) :
    takeVarint (varint n ++ rest) = some (n, rest) := by
  induction n using Nat.strongRecOn with
  | ind n ih =>
      by_cases small : n < 128
      · have last : n.toUInt8.toNat = n := toNat_toUInt8 (by omega)
        rw [varint_of_lt small, List.singleton_append, takeVarint_last (by omega), last]
      · have first : (n % 128 + 128).toUInt8.toNat = n % 128 + 128 := toNat_toUInt8 (by omega)
        rw [varint_of_ge small, List.cons_append, takeVarint_more (by omega),
          ih (n / 128) (by omega), first, Option.map_some, Option.some.injEq, Prod.mk.injEq]
        exact ⟨by omega, rfl⟩

/-- Bytes that give a number are its groups, or more than these: the first byte holds the low group
either way, and the others give what is left of the number. -/
theorem eq_varint_or_longer (taken : takeVarint bytes = some (n, [])) :
    bytes = varint n ∨ (varint n).length < bytes.length := by
  induction bytes generalizing n with
  | nil => cases taken
  | cons b s ih =>
      rcases Nat.lt_or_ge b.toNat 128 with last | more
      · rw [takeVarint_last last, Option.some.injEq, Prod.mk.injEq] at taken
        obtain ⟨rfl, rfl⟩ := taken
        rw [varint_of_lt last, Nat.toUInt8, UInt8.ofNat_toNat]
        exact .inl rfl
      · rw [takeVarint_more more, Option.map_eq_some_iff] at taken
        obtain ⟨⟨high, rest⟩, taken, made⟩ := taken
        obtain ⟨rfl, rfl⟩ := Prod.mk.inj made
        have others := ih taken
        by_cases zero : high = 0
        · -- the groups behind the first are zero, and there is at least one of them
          subst zero
          right
          have some : s ≠ [] := by
            rintro rfl
            cases taken
          rw [varint_of_lt (by omega), List.length_singleton, List.length_cons]
          exact Nat.succ_lt_succ (List.length_pos_iff.mpr some)
        · have large : ¬ b.toNat % 128 + 128 * high < 128 := by omega
          have low : (b.toNat % 128 + 128 * high) % 128 + 128 = b.toNat := by
            have := b.toNat_lt
            omega
          have left : (b.toNat % 128 + 128 * high) / 128 = high := by omega
          rw [varint_of_ge large, low, left, Nat.toUInt8, UInt8.ofNat_toNat, List.length_cons,
            List.length_cons]
          exact others.imp (congrArg (b :: ·)) Nat.succ_lt_succ

/-! ### How many groups there are -/

/-- A number that needs several groups has seven bits more than what is left behind the first. -/
theorem size_eq (large : ¬ n < 128) : n.size = (n / 128).size + 7 := by
  apply Nat.le_antisymm
  · rw [Nat.size_le, Nat.pow_add]
    have := Nat.lt_size_self (n / 128)
    omega
  · have positive : 0 < (n / 128).size := Nat.size_pos.mpr (by omega)
    have bound : 2 ^ ((n / 128).size - 1) ≤ n / 128 := Nat.lt_size.mp (by omega)
    have up : 2 ^ ((n / 128).size - 1 + 7) ≤ n := by
      rw [Nat.pow_add]
      omega
    have := Nat.lt_size.mpr up
    omega

/-- There is a group for every seven bits that are begun, and one for zero. -/
theorem length_varint (n : Nat) : (varint n).length = max 1 ((n.size + 6) / 7) := by
  induction n using Nat.strongRecOn with
  | ind n ih =>
      by_cases small : n < 128
      · have bits : n.size ≤ 7 := Nat.size_le.mpr small
        rw [varint_of_lt small, List.length_singleton]
        omega
      · have positive : 0 < (n / 128).size := Nat.size_pos.mpr (by omega)
        rw [varint_of_ge small, List.length_cons, ih (n / 128) (by omega), size_eq small]
        omega

/-- The last group is zero for zero alone. -/
theorem getLast?_varint_eq_zero_iff : (varint n).getLast? = some 0 ↔ n = 0 := by
  induction n using Nat.strongRecOn with
  | ind n ih =>
      by_cases small : n < 128
      · rw [varint_of_lt small, List.getLast?_singleton, Option.some.injEq, ← UInt8.toNat_inj,
          toNat_toUInt8 (by omega)]
        rfl
      · rw [varint_of_ge small, List.getLast?_cons_of_ne_nil (varint_ne_nil _),
          ih (n / 128) (by omega)]
        omega

/--
**A number is pushed in the fewest groups of seven bits, and can be taken off again.**

Taking a number off gives the number that was pushed and leaves exactly what follows.  There are as
many bytes as groups of seven bits are begun, at least one and at most ten; the high bit is set in
all of them but the last, which is zero for zero alone.  Any other bytes that give the number are
longer, no number is a proper beginning of another, and the bytes that were there are kept.
-/
theorem numbers_pushed_shortest (value : UInt64) :
    (∀ rest, takeVarint (pushVarint [] value ++ rest) = some (value.toNat, rest)) ∧
    (pushVarint [] value).length = max 1 ((value.toNat.size + 6) / 7) ∧
    (pushVarint [] value).length ≤ 10 ∧
    (∃ front last, pushVarint [] value = front ++ [last] ∧ (∀ b ∈ front, 128 ≤ b.toNat) ∧
      last.toNat < 128 ∧ (last = 0 ↔ value = 0)) ∧
    (∀ bytes, takeVarint bytes = some (value.toNat, []) → bytes ≠ pushVarint [] value →
      (pushVarint [] value).length < bytes.length) ∧
    (∀ other rest, pushVarint [] other = pushVarint [] value ++ rest →
      other = value ∧ rest = []) ∧
    ∀ buffer, pushVarint buffer value = buffer ++ pushVarint [] value := by
  have pushed (value : UInt64) : pushVarint [] value = varint value.toNat := pushVarint_eq [] value
  rw [pushed value]
  have bits : value.toNat.size ≤ 64 := Nat.size_le.mpr value.toNat_lt
  have length := length_varint value.toNat
  refine ⟨takeVarint_varint value.toNat, length, by omega, ?_, ?_, ?_,
    fun buffer => pushVarint_eq buffer value⟩
  · obtain ⟨front, last, split, marked, unmarked⟩ := varint_eq_append value.toNat
    refine ⟨front, last, split, marked, unmarked, ?_⟩
    have zero : (varint value.toNat).getLast? = some 0 ↔ value.toNat = 0 :=
      getLast?_varint_eq_zero_iff
    rw [split, List.getLast?_concat, Option.some.injEq] at zero
    rw [zero, ← UInt64.toNat_inj]
    rfl
  · intro bytes taken other
    exact (eq_varint_or_longer taken).resolve_left other
  · intro other rest same
    have apart : varint other.toNat ++ [] = varint value.toNat ++ rest := by
      rw [List.append_nil, ← pushed other, same]
    obtain ⟨number, nothing⟩ := selfDelimiting_varint apart
    exact ⟨UInt64.toNat_inj.mp number, nothing.symm⟩

example : pushVarint [0xFF] 300 = [0xFF, 0xAC, 0x02] := by cbv

end BlogGateway.Wire
