/-
What is read as a number is a number.

A number is read part by part, and each part stops at the first byte that does not belong to it.
So what has been taken is a number of the grammar, and it would have been taken in the same way
before anything else that no number goes on into: that is `Cut`, said of each part in turn.

Only digits alone are kept as a whole number.  They are then the digits of that number, since JSON
has no zeros in front of it.
-/
import BlogGateway.Proofs.Json.Numbers
import BlogGateway.Proofs.Json.Taken
import Mathlib.Data.List.Induction

namespace BlogGateway.Json

open Ascii

variable {negative : Bool} {limit acc count significand : Nat} {start exponent : Int}
  {s rest t ds token : Bytes} {number : Number} {wanted : String}

/-! ### Digits -/

/-- The bytes do not go on with a digit. -/
def NoDigit (s : Bytes) : Prop := ∀ b ∈ s.head?, isDigit b = false

theorem noDigit_of_stops (stops : Stops s) : NoDigit s := by
  intro b first
  cases s with
  | nil => cases first
  | cons b' s =>
      obtain rfl := Option.some.inj first
      exact (not_digit_of_stops stops).1

/-- Bytes begin with all of their digits. -/
theorem exists_digits (s : Bytes) : ∃ ds t, s = ds ++ t ∧ (∀ d ∈ ds, isDigit d) ∧ NoDigit t := by
  refine ⟨s.takeWhile isDigit, s.dropWhile isDigit, List.takeWhile_append_dropWhile.symm,
    fun d hmem => List.mem_takeWhile_imp hmem, fun b first => ?_⟩
  have ends := List.head?_dropWhile_not isDigit s
  rw [Option.mem_def.mp first] at ends
  simpa using ends

theorem dropWhile_digits (digits : ∀ d ∈ ds, isDigit d) (ends : NoDigit t) :
    (ds ++ t).dropWhile isDigit = t := by
  rw [List.dropWhile_append_of_pos digits]
  cases t with
  | nil => rfl
  | cons b t => rw [List.dropWhile_cons, ends b rfl]; rfl

theorem takeWhile_digits (digits : ∀ d ∈ ds, isDigit d) (ends : NoDigit t) :
    (ds ++ t).takeWhile isDigit = ds := by
  rw [List.takeWhile_append_of_pos digits]
  cases t with
  | nil => rw [List.takeWhile_nil, List.append_nil]
  | cons b t => rw [List.takeWhile_cons, ends b rfl]; simp

/-- The number that digits spell behind others. -/
def decimal (acc : Nat) (ds : Bytes) : Nat :=
  ds.foldl (fun acc d => acc * 10 + (d - 0x30).toNat) acc

/-- Of the digits some are taken into a number, and the others are left, whatever follows. -/
theorem exists_absorbed (limit acc count : Nat) (digits : ∀ d ∈ ds, isDigit d) :
    ∃ taken left, ds = taken ++ left ∧ ∀ t, NoDigit t →
      absorb limit acc count (ds ++ t) = (decimal acc taken, count + taken.length, left ++ t) := by
  induction ds generalizing acc count with
  | nil =>
      refine ⟨[], [], rfl, fun t ends => ?_⟩
      cases t with
      | nil => rfl
      | cons b t =>
          simp only [List.nil_append, absorb, ends b rfl]
          rfl
  | cons d ds ih =>
      have digit := digits d (List.mem_cons_self ..)
      by_cases exceeds : limit < acc * 10 + (d - 0x30).toNat
      · refine ⟨[], d :: ds, rfl, fun t ends => ?_⟩
        simp only [List.cons_append, absorb, digit, exceeds, ↓reduceIte]
        rfl
      · obtain ⟨taken, left, rfl, absorbed⟩ := ih (acc * 10 + (d - 0x30).toNat) (count + 1)
          fun d hmem => digits d (List.mem_cons_of_mem _ hmem)
        refine ⟨d :: taken, left, rfl, fun t ends => ?_⟩
        simp only [List.cons_append, absorb, digit, exceeds, ↓reduceIte]
        rw [absorbed t ends]
        simp [decimal]
        omega

/-! ### Fractions and exponents -/

/-- The reader has taken a token of the kind off the front, and takes the same before anything that
no number goes on into. -/
def Cut (read : Bytes → Except SyntaxError (Number × Bytes)) (Kind : Bytes → Prop) (s : Bytes)
    (number : Number) (rest : Bytes) : Prop :=
  ∃ token, s = token ++ rest ∧ Kind token ∧ (∃ value, number = .float value) ∧
    ∀ t, Stops t → read (token ++ t) = .ok (number, t)

/-- A sign and digits. -/
def SignedDigits (token : Bytes) : Prop :=
  ∃ sign ds, sign ∈ [[], [plus], [minus]] ∧ Digits ds ∧ token = sign ++ ds

/-- What an exponent gives does not depend on what follows. -/
theorem exists_readExponent (negative : Bool) (significand : Nat) (start : Int)
    (signed : SignedDigits token) :
    ∃ result : Except SyntaxError Decimal.Binary64, ∀ t, NoDigit t →
      readExponent negative significand start (token ++ t)
        = result.map fun value => (.float value, t) := by
  obtain ⟨sign, ds, signed, digits, rfl⟩ := signed
  obtain ⟨taken, left, split, absorbed⟩ := exists_absorbed 0x7FFFFFFF 0 0 digits.all
  have left_digits : ∀ d ∈ left, isDigit d := fun d hmem =>
    digits.all d (split ▸ List.mem_append_right taken hmem)
  obtain ⟨d, others, rfl⟩ := List.exists_cons_of_ne_nil digits.ne_nil
  have digit := digits.all d (List.mem_cons_self ..)
  have ne_plus : d ≠ plus := ne_of_isDigit digit rfl
  have ne_minus : d ≠ minus := ne_of_isDigit digit rfl
  have ne : minus ≠ plus := by decide
  have none : [] ≠ [minus] := by decide
  have other : [plus] ≠ [minus] := by decide
  refine ⟨if left = [] then
      floatOf negative significand
        (if sign = [minus] then start - decimal 0 taken else start + decimal 0 taken)
    else if significand ≠ 0 && !decide (sign = [minus]) then .error .numberOutOfRange
    else floatOf negative 0 0, fun t ends => ?_⟩
  have absorbed := absorbed t ends
  have dropped := dropWhile_digits left_digits ends
  rw [List.cons_append] at absorbed
  simp only [List.mem_cons, List.not_mem_nil, or_false] at signed
  unfold readExponent
  rcases signed with rfl | rfl | rfl
  all_goals
    simp only [List.nil_append, List.cons_append, ne_plus, ne_minus, ne, digit, absorbed,
      ↓reduceIte]
    cases left with
    | nil =>
        cases t with
        | nil => simp [readExponent.finish, none, other]
        | cons c t => simp [readExponent.finish, none, other, ends c rfl]
    | cons c left =>
        have first := left_digits c (List.mem_cons_self ..)
        rw [List.cons_append] at dropped
        simp only [List.cons_append, first, dropped, none, other, ↓reduceIte]
        by_cases zero : significand = 0 <;> simp [zero, Except.map]

/-- What is read as an exponent begins with a sign and digits. -/
theorem exists_signedDigits {result : Number × Bytes}
    (h : readExponent negative significand start s = .ok result) :
    ∃ token t, s = token ++ t ∧ SignedDigits token ∧ NoDigit t := by
  have signed (sign : Bytes) {s : Bytes} (signed : sign ∈ [[], [plus], [minus]])
      (some : ∃ d ∈ s.head?, isDigit d) :
      ∃ token t, sign ++ s = token ++ t ∧ SignedDigits token ∧ NoDigit t := by
    obtain ⟨d, first, digit⟩ := some
    obtain ⟨ds, t, rfl, digits, ends⟩ := exists_digits s
    refine ⟨sign ++ ds, t, (List.append_assoc ..).symm, ⟨sign, ds, signed, ⟨?_, digits⟩, rfl⟩, ends⟩
    rintro rfl
    exact absurd digit (Bool.eq_false_iff.mp (ends d first))
  have digit {d : UInt8} {read : Except SyntaxError (Number × Bytes)}
      (h : (if isDigit d then read else .error .invalidNumber) = .ok result) : isDigit d := by
    by_contra other
    rw [if_neg other] at h
    cases h
  unfold readExponent at h
  cases s with
  | nil => cases h
  | cons b s =>
      by_cases is_plus : b = plus
      · subst is_plus
        refine signed [plus] (by decide) ?_
        cases s with
        | nil => cases h
        | cons d s => exact ⟨d, rfl, digit h⟩
      by_cases is_minus : b = minus
      · subst is_minus
        refine signed [minus] (by decide) ?_
        cases s with
        | nil => cases h
        | cons d s => exact ⟨d, rfl, digit h⟩
      · simp only [is_plus, is_minus, ↓reduceIte] at h
        exact signed [] (by decide) ⟨b, rfl, digit h⟩

theorem cut_readExponent (h : readExponent negative significand start s = .ok (number, rest)) :
    Cut (readExponent negative significand start) SignedDigits s number rest := by
  obtain ⟨token, t, rfl, signed, ends⟩ := exists_signedDigits h
  obtain ⟨result, read⟩ := exists_readExponent negative significand start signed
  rw [read t ends] at h
  obtain ⟨value, rfl, made⟩ := Except.map_eq_ok_iff.mp h
  obtain ⟨rfl, rfl⟩ := Prod.mk.inj made
  exact ⟨token, rfl, signed, ⟨value, rfl⟩, fun t stops => read t (noDigit_of_stops stops)⟩

/-- The byte marks an exponent. -/
def Marks (b : UInt8) : Prop := b ∈ [lowerE, upperE]

theorem readFloatEnd_mark {mark : UInt8} (marks : Marks mark) (t : Bytes) :
    readFloatEnd negative significand exponent (mark :: t)
      = readExponent negative significand exponent t :=
  if_pos (by simpa [Marks] using marks)

theorem readFloatEnd_alone (other : ∀ b ∈ t.head?, ¬ Marks b) :
    readFloatEnd negative significand exponent t
      = (floatOf negative significand exponent).map fun value => (.float value, t) := by
  cases t with
  | nil => rfl
  | cons b t => exact if_neg (by simpa [Marks] using other b rfl)

theorem not_marks_of_stops (stops : Stops t) : ∀ b ∈ t.head?, ¬ Marks b := by
  intro b first
  obtain ⟨t, rfl⟩ := List.head?_eq_some_iff.mp first
  obtain ⟨-, -, ne_lower, ne_upper⟩ := not_digit_of_stops stops
  simp [Marks, ne_lower, ne_upper]

/-- An exponent begins with its mark, and is not there without one. -/
theorem exists_mark (s : Bytes) : (∃ mark t, s = mark :: t ∧ Marks mark) ∨
    ∀ b ∈ s.head?, ¬ Marks b := by
  cases s with
  | nil => exact .inr fun b first => nomatch first
  | cons b s =>
      by_cases marks : Marks b
      · exact .inl ⟨b, s, rfl, marks⟩
      · exact .inr fun b' first => Option.some.inj first ▸ marks

theorem cut_readFloatEnd (h : readFloatEnd negative significand exponent s = .ok (number, rest)) :
    Cut (readFloatEnd negative significand exponent) IsExponent s number rest := by
  rcases exists_mark s with ⟨mark, t, rfl, marks⟩ | other
  · rw [readFloatEnd_mark marks] at h
    obtain ⟨token, rfl, ⟨sign, ds, signed, digits, rfl⟩, float, read⟩ := cut_readExponent h
    refine ⟨mark :: sign ++ ds, rfl, .some marks signed digits, float, fun t stops => ?_⟩
    exact (readFloatEnd_mark marks _).trans (read t stops)
  · rw [readFloatEnd_alone other] at h
    obtain ⟨value, float, made⟩ := Except.map_eq_ok_iff.mp h
    obtain ⟨rfl, rfl⟩ := Prod.mk.inj made
    refine ⟨[], rfl, .none, ⟨value, rfl⟩, fun t stops => ?_⟩
    rw [List.nil_append, readFloatEnd_alone (not_marks_of_stops stops), float]
    rfl

theorem noDigit_cons {b : UInt8} (other : isDigit b = false) (s : Bytes) : NoDigit (b :: s) := by
  intro b' first
  obtain rfl := Option.some.inj first
  exact other

theorem noDigit_mark {mark : UInt8} (marks : Marks mark) (s : Bytes) : NoDigit (mark :: s) := by
  refine noDigit_cons ?_ s
  simp only [Marks, List.mem_cons, List.not_mem_nil, or_false] at marks
  rcases marks with rfl | rfl <;> rfl

theorem noDigit_exponent (isExponent : IsExponent token) (stops : Stops t) :
    NoDigit (token ++ t) := by
  cases isExponent with
  | none => exact noDigit_of_stops stops
  | some marks => exact noDigit_mark marks _

/-- Digits, and then an exponent or nothing. -/
def Fractional (token : Bytes) : Prop := ∃ ds e, Digits ds ∧ IsExponent e ∧ token = ds ++ e

theorem cut_readFraction (h : readFraction negative significand exponent s = .ok (number, rest)) :
    Cut (readFraction negative significand exponent) Fractional s number rest := by
  obtain ⟨ds, t, rfl, digits, ends⟩ := exists_digits s
  obtain ⟨taken, left, split, absorbed⟩ := exists_absorbed significandLimit significand 0 digits
  have left_digits : ∀ d ∈ left, isDigit d := fun d hmem =>
    digits d (split ▸ List.mem_append_right taken hmem)
  cases ds with
  | nil =>
      exfalso
      cases t with
      | nil => cases h
      | cons b t =>
          simp only [List.nil_append, readFraction, ends b rfl] at h
          cases h
  | cons d others =>
      have digit := digits d (List.mem_cons_self ..)
      have goesOn (t : Bytes) (ends : NoDigit t) :
          readFraction negative significand exponent (d :: others ++ t)
            = readFloatEnd negative (decimal significand taken)
                (exponent - (0 + taken.length : Nat)) t := by
        have absorbed := absorbed t ends
        rw [List.cons_append] at absorbed
        simp only [List.cons_append, readFraction, digit, absorbed, ↓reduceIte,
          dropWhile_digits left_digits ends]
      rw [goesOn t ends] at h
      obtain ⟨e, rfl, isExponent, float, read⟩ := cut_readFloatEnd h
      refine ⟨d :: others ++ e, by simp, ⟨_, e, ⟨List.cons_ne_nil _ _, digits⟩, isExponent, rfl⟩,
        float, fun t stops => ?_⟩
      rw [List.append_assoc, goesOn _ (noDigit_exponent isExponent stops)]
      exact read t stops

/-! ### Behind the digits -/

/-- A fraction and an exponent, or one of them, or nothing. -/
def Tail (token : Bytes) : Prop := ∃ f e, IsFraction f ∧ IsExponent e ∧ token = f ++ e

theorem noDigit_tail (tail : Tail token) (stops : Stops t) : NoDigit (token ++ t) := by
  obtain ⟨f, e, fraction, isExponent, rfl⟩ := tail
  cases fraction with
  | none => exact noDigit_exponent isExponent stops
  | some => exact noDigit_cons rfl _

/-- Digits that no longer fit move the point, wherever that is. -/
theorem readNumberEnd_point (digits : ∀ d ∈ ds, isDigit d) (t : Bytes) :
    readNumberEnd negative significand (ds ++ point :: t)
      = readFraction negative significand ds.length t := by
  cases ds with
  | nil => rfl
  | cons d ds =>
      have digit := digits d (List.mem_cons_self ..)
      have left := dropWhile_digits digits (noDigit_cons (b := point) rfl t)
      have all := takeWhile_digits digits (noDigit_cons (b := point) rfl t)
      rw [List.cons_append] at left all
      simp only [List.cons_append, readNumberEnd, digit, left, all, ↓reduceIte]

theorem readNumberEnd_some (some : ds ≠ []) (digits : ∀ d ∈ ds, isDigit d) (ends : NoDigit t)
    (other : point ∉ t.head?) :
    readNumberEnd negative significand (ds ++ t)
      = readFloatEnd negative significand ds.length t := by
  obtain ⟨d, ds, rfl⟩ := List.exists_cons_of_ne_nil some
  have digit := digits d (List.mem_cons_self ..)
  have left := dropWhile_digits digits ends
  have all := takeWhile_digits digits ends
  rw [List.cons_append] at left all
  simp only [List.cons_append, readNumberEnd, digit, left, all, ↓reduceIte]
  cases t with
  | nil => rfl
  | cons b t =>
      have ne : b ≠ point := fun same => other (congrArg Option.some same)
      simp only [ne, ↓reduceIte]

theorem readNumberEnd_mark {mark : UInt8} (digits : ∀ d ∈ ds, isDigit d) (marks : Marks mark)
    (t : Bytes) : readNumberEnd negative significand (ds ++ mark :: t)
      = readExponent negative significand ds.length t := by
  by_cases some : ds = []
  · subst some
    simp only [Marks, List.mem_cons, List.not_mem_nil, or_false] at marks
    rcases marks with rfl | rfl <;> rfl
  · have other : point ∉ (mark :: t).head? := by
      intro first
      obtain rfl := Option.some.inj first
      exact absurd marks (by unfold Marks; decide)
    rw [readNumberEnd_some some digits (noDigit_mark marks t) other, readFloatEnd_mark marks]

theorem readNumberEnd_whole (ends : NoDigit t) (other : point ∉ t.head?)
    (alone : ∀ b ∈ t.head?, ¬ Marks b) :
    readNumberEnd negative significand t = readNumberEnd.whole negative significand t := by
  cases t with
  | nil => rfl
  | cons b t =>
      have ne : b ≠ point := fun same => other (congrArg some same)
      have unmarked := alone b rfl
      simp only [Marks, List.mem_cons, List.not_mem_nil, or_false, not_or] at unmarked
      simp [readNumberEnd, ends b rfl, ne, unmarked]

/-- Behind the digits that did not fit there is a float, or the number ends there and is whole. -/
theorem cut_readNumberEnd (digits : ∀ d ∈ ds, isDigit d) (ends : NoDigit t)
    (h : readNumberEnd negative significand (ds ++ t) = .ok (number, rest)) :
    Cut (fun t => readNumberEnd negative significand (ds ++ t)) Tail t number rest ∨
      ds = [] ∧ readNumberEnd.whole negative significand t = .ok (number, rest) := by
  by_cases pointed : point ∈ t.head?
  · obtain ⟨t, rfl⟩ := List.head?_eq_some_iff.mp pointed
    rw [readNumberEnd_point digits] at h
    obtain ⟨token, rfl, ⟨ds', e, digits', exponent, rfl⟩, float, read⟩ := cut_readFraction h
    refine .inl ⟨point :: (ds' ++ e), rfl, ⟨point :: ds', e, .some digits', exponent, rfl⟩, float,
      fun t stops => ?_⟩
    exact (readNumberEnd_point digits _).trans (read t stops)
  rcases exists_mark t with ⟨mark, t, rfl, marks⟩ | alone
  · rw [readNumberEnd_mark digits marks] at h
    obtain ⟨token, rfl, ⟨sign, ds', signed, digits', rfl⟩, float, read⟩ := cut_readExponent h
    refine .inl ⟨mark :: sign ++ ds', rfl, ⟨[], _, .none, .some marks signed digits', rfl⟩, float,
      fun t stops => ?_⟩
    exact (readNumberEnd_mark digits marks _).trans (read t stops)
  by_cases some : ds = []
  · subst some
    rw [List.nil_append, readNumberEnd_whole ends pointed alone] at h
    exact .inr ⟨rfl, h⟩
  · rw [readNumberEnd_some some digits ends pointed, readFloatEnd_alone alone] at h
    obtain ⟨value, float, made⟩ := Except.map_eq_ok_iff.mp h
    obtain ⟨rfl, rfl⟩ := Prod.mk.inj made
    refine .inl ⟨[], rfl, ⟨[], [], .none, .none, rfl⟩, ⟨value, rfl⟩, fun t stops => ?_⟩
    have other : point ∉ t.head? := by
      intro first
      obtain ⟨t, rfl⟩ := List.head?_eq_some_iff.mp first
      exact (not_digit_of_stops stops).2.1 rfl
    show readNumberEnd negative significand (ds ++ ([] ++ t)) = _
    rw [List.nil_append, readNumberEnd_some some digits (noDigit_of_stops stops) other,
      readFloatEnd_alone (not_marks_of_stops stops), float]
    rfl

/-! ### Whole numbers -/

theorem decimal_concat (ds : Bytes) (d : UInt8) :
    decimal 0 (ds ++ [d]) = 10 * decimal 0 ds + (d - 0x30).toNat := by
  rw [decimal, List.foldl_append, List.foldl_cons, List.foldl_nil, Nat.mul_comm, ← decimal]

theorem toNat_digit {d : UInt8} (digit : isDigit d) : (d - 0x30).toNat = d.toNat - 0x30 ∧
    0x30 ≤ d.toNat ∧ d.toNat ≤ 0x39 := by
  have bounds : 0x30 ≤ d.toNat ∧ d.toNat ≤ 0x39 := by
    simpa [isDigit, UInt8.le_iff_toNat_le] using digit
  refine ⟨?_, bounds⟩
  rw [UInt8.toNat_sub_of_le _ _ (by rw [UInt8.le_iff_toNat_le]; exact bounds.1)]
  rfl

/-- A digit is written as the byte that it was read from. -/
theorem byte_digitChar {d : UInt8} (digit : isDigit d) :
    byte (Nat.digitChar (d - 0x30).toNat) = d := by
  obtain ⟨value, low, high⟩ := toNat_digit digit
  have all : ∀ n : Fin 10, byte (Nat.digitChar n) = (n.val + 0x30).toUInt8 := by decide
  have own : byte (Nat.digitChar (d.toNat - 0x30)) = (d.toNat - 0x30 + 0x30).toUInt8 :=
    all ⟨d.toNat - 0x30, by omega⟩
  rw [value, own]
  apply UInt8.toNat_inj.mp
  rw [Nat.toUInt8, UInt8.toNat_ofNat']
  omega

/-- Digits without a zero in front are those of the number that they spell. -/
theorem toDigits_decimal (whole : IsWhole ds) : (Nat.toDigits 10 (decimal 0 ds)).map byte = ds := by
  cases whole with
  | zero => rfl
  | @positive b s first ne_zero more =>
      have positive : 0 < decimal 0 (b :: s) ∧
          (Nat.toDigits 10 (decimal 0 (b :: s))).map byte = b :: s := by
        induction s using List.reverseRecOn with
        | nil =>
            obtain ⟨value, low, high⟩ := toNat_digit first
            have one : decimal 0 [b] = (b - 0x30).toNat := by simp [decimal]
            have other : b.toNat ≠ 0x30 := fun same => ne_zero (UInt8.toNat_inj.mp same)
            rw [one, Nat.toDigits_of_lt_base (by omega), List.map_singleton, byte_digitChar first]
            exact ⟨by omega, rfl⟩
        | append_singleton s d ih =>
            have digit := more d (by simp)
            obtain ⟨some, same⟩ := ih fun d hmem => more d (List.mem_append_left _ hmem)
            obtain ⟨value, low, high⟩ := toNat_digit digit
            rw [← List.cons_append, decimal_concat,
              Nat.toDigits_of_base_le (by decide) (by omega),
              show (10 * decimal 0 (b :: s) + (d - 0x30).toNat) / 10 = decimal 0 (b :: s) by omega,
              show (10 * decimal 0 (b :: s) + (d - 0x30).toNat) % 10 = (d - 0x30).toNat by omega,
              List.map_append, same, List.map_singleton, byte_digitChar digit]
            exact ⟨by omega, rfl⟩
      exact positive.2

/-- The sign of a number below zero. -/
def signOf (negative : Bool) : Bytes := if negative then [minus] else []

/-- A whole number is kept with its sign, whatever follows. -/
theorem of_whole (h : readNumberEnd.whole negative significand s = .ok (number, rest)) :
    rest = s ∧ (∀ t, readNumberEnd.whole negative significand t = .ok (number, t)) ∧
      ∀ value, number = .whole value →
        signOf negative ++ (Nat.toDigits 10 significand).map byte
          = Bytes.ofText (toString value) := by
  unfold readNumberEnd.whole at h ⊢
  cases negative with
  | false =>
      obtain ⟨rfl, rfl⟩ := Prod.mk.inj (Except.ok.inj h)
      refine ⟨rfl, fun t => rfl, fun value same => ?_⟩
      obtain rfl := Number.whole.inj same
      exact (ofText_toString significand).symm
  | true =>
      simp only [Bool.not_true, Bool.false_eq_true, ↓reduceIte] at h ⊢
      split at h
      · rename_i float
        obtain ⟨value, found, made⟩ := Except.map_eq_ok_iff.mp h
        obtain ⟨rfl, rfl⟩ := Prod.mk.inj made
        refine ⟨rfl, fun t => ?_, fun value same => nomatch same⟩
        rw [if_pos float, found]
        rfl
      · rename_i kept
        obtain ⟨rfl, rfl⟩ := Prod.mk.inj (Except.ok.inj h)
        refine ⟨rfl, fun t => if_neg kept, fun value same => ?_⟩
        obtain rfl := Number.whole.inj same
        simp only [Bool.or_eq_true, decide_eq_true_eq, not_or] at kept
        obtain ⟨n, rfl⟩ : ∃ n, significand = n + 1 := ⟨significand - 1, by omega⟩
        exact (congrArg _ (ofText_toString (n + 1)).symm).trans (ofText_negSucc n).symm

theorem readNumber_zero (ends : NoDigit t) :
    readNumber negative (0x30 :: t) = readNumberEnd negative 0 t := by
  cases t with
  | nil => rfl
  | cons b t => simp [readNumber, ends b rfl]

/-- The token is a number without its sign, which is read as the number before anything that no
number goes on into; a whole number is its decimal text. -/
structure NumberToken (negative : Bool) (token : Bytes) (number : Number) : Prop where
  parts : ∃ w tail, IsWhole w ∧ Tail tail ∧ token = w ++ tail
  read_eq : ∀ t, Stops t → readNumber negative (token ++ t) = .ok (number, t)
  text : ∀ value, number = .whole value → signOf negative ++ token = Bytes.ofText (toString value)

/-- What stands behind the digits of a number completes it; `left` are the digits that did not fit
the significand. -/
theorem exists_numberToken (significand : Nat) (left : Bytes) (whole : IsWhole ds)
    (digits : ∀ d ∈ left, isDigit d)
    (alone : left = [] → (Nat.toDigits 10 significand).map byte = ds)
    (goesOn : ∀ t, NoDigit t →
      readNumber negative (ds ++ t) = readNumberEnd negative significand (left ++ t))
    (ends : NoDigit t) (h : readNumber negative (ds ++ t) = .ok (number, rest)) :
    ∃ token, ds ++ t = token ++ rest ∧ NumberToken negative token number := by
  rw [goesOn t ends] at h
  rcases cut_readNumberEnd digits ends h with ⟨tail, rfl, isTail, ⟨float, rfl⟩, read⟩ |
      ⟨none, kept⟩
  · refine ⟨ds ++ tail, by simp, ⟨ds, tail, whole, isTail, rfl⟩, fun t stops => ?_,
      fun value same => nomatch same⟩
    rw [List.append_assoc, goesOn _ (noDigit_tail isTail stops)]
    exact read t stops
  · obtain ⟨rfl, read, text⟩ := of_whole kept
    rw [alone none] at text
    refine ⟨ds, rfl, ⟨ds, [], whole, ⟨[], [], .none, .none, rfl⟩, by simp⟩, fun t stops => ?_, text⟩
    rw [goesOn t (noDigit_of_stops stops), none, List.nil_append, readNumberEnd_stops _ _ stops]
    exact read t

/-- What has been read of a number is one. -/
theorem of_readNumber (h : readNumber negative s = .ok (number, rest)) :
    ∃ token, s = token ++ rest ∧ NumberToken negative token number := by
  obtain ⟨ds, t, rfl, digits, ends⟩ := exists_digits s
  cases ds with
  | nil =>
      exfalso
      cases t with
      | nil => cases h
      | cons b t =>
          have digit := ends b rfl
          have ne_zero : b ≠ 0x30 := by
            rintro rfl
            cases digit
          simp only [List.nil_append, readNumber, ne_zero, digit, ↓reduceIte] at h
          cases h
  | cons d others =>
      have digit := digits d (List.mem_cons_self ..)
      by_cases zero : d = 0x30
      · subst zero
        cases others with
        | nil =>
            exact exists_numberToken 0 [] .zero (by simp) (fun _ => rfl)
              (fun t ends => readNumber_zero ends) ends h
        | cons c others =>
            have second := digits c (by simp)
            simp [readNumber, second] at h
      · obtain ⟨taken, left, split, absorbed⟩ := exists_absorbed significandLimit 0 0 digits
        have whole : IsWhole (d :: others) :=
          .positive digit zero fun d hmem => digits d (List.mem_cons_of_mem _ hmem)
        refine exists_numberToken (decimal 0 taken) left whole
          (fun d hmem => digits d (split ▸ List.mem_append_right taken hmem)) (fun none => ?_)
          (fun t ends => ?_) ends h
        · rw [none, List.append_nil] at split
          rw [← split]
          exact toDigits_decimal whole
        · have absorbed := absorbed t ends
          rw [List.cons_append] at absorbed
          simp only [List.cons_append, readNumber, zero, digit, absorbed, ↓reduceIte]

/-! ### Numbers with a sign -/

theorem NumberToken.isNumber (h : NumberToken negative token number) :
    IsNumber (signOf negative ++ token) := by
  obtain ⟨w, tail, whole, ⟨f, e, fraction, isExponent, rfl⟩, rfl⟩ := h.parts
  have signed : signOf negative ∈ [[], [minus]] := by cases negative <;> decide
  have number := IsNumber.mk signed whole fraction isExponent
  simpa using number

/-- **A number that has been read is a number, and is read wherever it stands**; if it is whole, it
is a decimal text. -/
theorem takes_anyNumber (wanted : String) :
    Takes (readAnyNumber wanted) fun number token => Reads (readAnyNumber wanted) token number ∧
      ∀ value, number = .whole value → token = Bytes.ofText (toString value) := by
  refine takes_atValue fun b t number rest _ h => ?_
  split at h
  · subst_vars
    obtain ⟨token, rfl, own⟩ := of_readNumber (Except.mapError_eq_ok_iff.mp h)
    refine ⟨minus :: token, ⟨?_, own.text⟩, rfl⟩
    refine reads_atValue (.number own.isNumber) fun rest stops => ?_
    simp only [↓reduceIte, own.read_eq rest stops, Except.mapError_ok]
  · rename_i ne_minus
    split at h
    · rename_i digit
      obtain ⟨token, split, own⟩ := of_readNumber (Except.mapError_eq_ok_iff.mp h)
      have isNumber : IsNumber token := own.isNumber
      obtain ⟨b', token, rfl, -⟩ := isNumber.begins
      obtain ⟨rfl, rfl⟩ := List.cons.inj split
      refine ⟨b :: token, ⟨?_, own.text⟩, rfl⟩
      refine reads_atValue (.number isNumber) fun rest stops => ?_
      have read_eq := own.read_eq rest stops
      rw [List.cons_append] at read_eq
      simp only [ne_minus, digit, ↓reduceIte, read_eq, Except.mapError_ok]
    · cases h

/-- The bytes are a whole number of 64 bits with a sign. -/
inductive SpellsInt64 (number : Int) : Bytes → Prop
  | decimal (low : -0x8000000000000000 ≤ number) (high : number ≤ 0x7FFFFFFFFFFFFFFF) :
      SpellsInt64 number (Bytes.ofText (toString number))

theorem SpellsInt64.reads {number : Int} (h : SpellsInt64 number token) :
    Reads readInt64 token number := by
  cases h with
  | decimal low high => exact reads_int64 low high

theorem takes_int64 : Takes readInt64 SpellsInt64 := by
  unfold readInt64
  refine (takes_anyNumber "i64").andThen fun number rest result rest' h => ?_
  dsimp only at h
  split at h
  · rename_i value
    split at h
    · rename_i range
      simp only [Bool.and_eq_true, decide_eq_true_eq] at range
      obtain ⟨rfl, rfl⟩ := Prod.mk.inj (Except.ok.inj h)
      refine ⟨rfl, fun token own => ?_⟩
      rw [own.2 value rfl]
      exact .decimal range.1 range.2
    · cases h
  · cases h

end BlogGateway.Json
