/-
A scan crosses exactly one value.

Put before a value, with the containers around it open, a scan gets to the end of the value
and to no other place: `scan_value`.  That is an induction over the grammar, in which lists
and objects are one case.  Both hold entries with commas between them, and a scan that has
crossed every entry has crossed the container.

What follows the value matters for numbers only, which have no last byte of their own; there
`Stops` is what makes the scan stop.
-/
import BlogGateway.Json.Scan
import BlogGateway.Proofs.Json.Grammar

namespace BlogGateway.Json

open Ascii

variable {stack stack' outer : List Container} {place place' : Place} {b : UInt8}
  {s rest blank : Bytes}

/-! ### One byte -/

theorem isSpace_iff : isSpace b = true ↔ b ∈ [0x20, 0x0A, 0x09, 0x0D] := by
  simp [isSpace, or_assoc]

/-- A scan that is still inside something goes on from where the step over a byte leads. -/
theorem scan_cons (step : Place.step stack place b = .ok (stack', place'))
    (inside : place = .ended → stack ≠ []) :
    scan stack place (b :: s) = scan stack' place' s := by
  rw [scan.eq_def]
  cases place with
  | number part => cases step
  | ended =>
      obtain ⟨inner, outer, rfl⟩ := List.exists_cons_of_ne_nil (inside rfl)
      simp only [List.isEmpty_cons, Bool.false_eq_true, ↓reduceIte, step]
      rfl
  | value | opened | key | colon | word | text =>
      simp only [step]
      rfl

/-- The places where white space may stand. -/
def Place.Skips (stack : List Container) : Place → Prop
  | .value | .opened | .key | .colon => True
  | .ended => stack ≠ []
  | .word _ | .text _ _ | .number _ => False

theorem scan_blank (skips : place.Skips stack) (hblank : Blank blank) :
    scan stack place (blank ++ s) = scan stack place s := by
  induction blank with
  | nil => rfl
  | cons b blank ih =>
      have space : isSpace b = true := isSpace_iff.mpr (hblank b (List.mem_cons_self ..))
      have step : Place.step stack place b = .ok (stack, place) := by
        cases place with
        | value | opened | key | colon | ended => exact if_pos space
        | word | text | number => exact skips.elim
      rw [List.cons_append, scan_cons step fun ended => by subst ended; exact skips]
      exact ih fun b' hmem => hblank b' (List.mem_cons_of_mem b hmem)

/-! ### Words -/

theorem scan_word {left : Bytes} (some : left ≠ []) :
    scan stack (.word left) (left ++ rest) = scan stack .ended rest := by
  induction left with
  | nil => exact absurd rfl some
  | cons b left ih =>
      cases left with
      | nil =>
          have step : Place.step stack (.word [b]) b = .ok (stack, .ended) := if_pos rfl
          exact scan_cons step fun h => nomatch h
      | cons b' left =>
          have step : Place.step stack (.word (b :: b' :: left)) b
              = .ok (stack, .word (b' :: left)) := if_pos rfl
          rw [List.cons_append, scan_cons step (by simp)]
          exact ih (List.cons_ne_nil b' left)

/-! ### Strings -/

/-- A scan inside a string gets to its end. -/
theorem scan_content {content : Bytes} (h : IsContent content) (isKey : Bool) :
    scan stack (.text isKey .plain) (content ++ quote :: rest)
      = scan stack (if isKey then .colon else .ended) rest := by
  have text {part : TextPart} {b : UInt8} {s : Bytes} {place : Place}
      (step : TextPart.step isKey part b = .ok place) :
      scan stack (.text isKey part) (b :: s) = scan stack place s :=
    scan_cons (congrArg (Except.map (stack, ·)) step) fun h => nomatch h
  induction h with
  | nil => exact text rfl
  | @plain b content printable ne_quote ne_backslash _ ih =>
      have step : TextPart.step isKey .plain b = .ok (.text isKey .plain) := by
        simp [TextPart.step, ne_quote, ne_backslash, UInt8.not_lt.mpr printable]
      rw [List.cons_append, text step, ih]
  | @escape letter content known _ ih =>
      have step : TextPart.step isKey .escape letter = .ok (.text isKey .plain) := by
        simp only [List.mem_cons, List.not_mem_nil, or_false] at known
        rcases known with rfl | rfl | rfl | rfl | rfl | rfl | rfl | rfl <;> rfl
      rw [List.cons_append, List.cons_append, text rfl, text step, ih]
  | @unit a b c d content hex _ ih =>
      simp only [List.forall_mem_cons, List.not_mem_nil, false_imp_iff, implies_true,
        and_true] at hex
      obtain ⟨ha, hb, hc, hd⟩ := hex
      have step {digit : UInt8} (hdigit : (hexValue? digit).isSome) (left : Nat)
          (more : 1 < left) : TextPart.step isKey (.digits left true) digit
            = .ok (.text isKey (.digits (left - 1) true)) := by
        simp [TextPart.step, hdigit, more]
      have last : TextPart.step isKey (.digits 1 true) d = .ok (.text isKey .plain) := by
        simp [TextPart.step, hd]
      simp only [List.cons_append]
      rw [text rfl, text rfl, text (step ha 4 (by decide)), text (step hb 3 (by decide)),
        text (step hc 2 (by decide)), text last, ih]

/-! ### Numbers -/

theorem scan_more {part part' : NumberPart} (step : part.step b = .more part') :
    scan stack (.number part) (b :: s) = scan stack (.number part') s := by
  rw [scan]
  simp only [step]

/-- Digits leave a scan where it is when that is a place among digits. -/
theorem scan_digits {part : NumberPart} (stays : ∀ b, isDigit b → part.step b = .more part)
    (digits : ∀ b ∈ s, isDigit b) :
    scan stack (.number part) (s ++ rest) = scan stack (.number part) rest := by
  induction s with
  | nil => rfl
  | cons b s ih =>
      rw [List.cons_append, scan_more (stays b (digits b (List.mem_cons_self ..)))]
      exact ih fun b' hmem => digits b' (List.mem_cons_of_mem b hmem)

/-- The first of some digits leads on, and the others stay there. -/
theorem scan_first_digits {part part' : NumberPart}
    (enters : ∀ b, isDigit b → part.step b = .more part')
    (stays : ∀ b, isDigit b → part'.step b = .more part') (digits : Digits s) :
    scan stack (.number part) (s ++ rest) = scan stack (.number part') rest := by
  obtain ⟨b, t, rfl⟩ := List.exists_cons_of_ne_nil digits.ne_nil
  have all := digits.all
  rw [List.cons_append, scan_more (enters b (all b (List.mem_cons_self ..)))]
  exact scan_digits stays fun b' hmem => all b' (List.mem_cons_of_mem b hmem)

/-- Where a number may end, it ends before what stops it. -/
theorem scan_stops {part : NumberPart} (complete : part.complete) (stops : Stops rest) :
    scan stack (.number part) rest = scan stack .ended rest := by
  cases rest with
  | nil =>
      rw [scan, scan]
      cases stack with
      | nil => simp only [Place.atEnd, complete, ↓reduceIte]
      | cons inner outer => simp only [Place.atEnd, complete, ↓reduceIte]
  | cons b rest =>
      have ended : part.step b = .ended := by
        have hb := stops b rfl
        simp only [List.mem_cons, List.not_mem_nil, or_false] at hb
        cases part with
        | sign | point | mark | markSign => cases complete
        | zero | whole | fraction | power =>
            rcases hb with rfl | rfl | rfl | rfl | rfl | rfl | rfl <;> rfl
      rw [scan, scan]
      simp only [ended]

theorem Begins.isSpace_eq_false (h : Begins b) : isSpace b = false := by
  simp only [isSpace, Bool.or_eq_false_iff, beq_eq_false_iff_ne]
  exact ⟨⟨⟨h.ne (by decide), h.ne (by decide)⟩, h.ne (by decide)⟩, h.ne (by decide)⟩

theorem ne_of_isDigit {x : UInt8} (digit : isDigit b) (other : isDigit x = false) : b ≠ x := by
  intro same
  rw [same, other] at digit
  cases digit

/-- A digit other than zero begins a number where a value must begin. -/
theorem step_value_of_digit (digit : isDigit b) (ne_zero : b ≠ 0x30) :
    Place.step stack .value b = .ok (stack, .number .whole) := by
  have space : isSpace b = false := Begins.isSpace_eq_false (.inr digit)
  simp only [Place.step, beginValue, space, Bool.false_eq_true, ↓reduceIte, digit, ne_zero,
    ne_of_isDigit (x := openBracket) digit rfl, ne_of_isDigit (x := openBrace) digit rfl,
    ne_of_isDigit (x := quote) digit rfl, ne_of_isDigit (x := minus) digit rfl]

/-- Where the digits of a number lead. -/
theorem NumberPart.step_digit (digit : isDigit b) :
    NumberPart.step .whole b = .more .whole ∧ NumberPart.step .point b = .more .fraction ∧
      NumberPart.step .fraction b = .more .fraction ∧ NumberPart.step .mark b = .more .power ∧
      NumberPart.step .markSign b = .more .power ∧ NumberPart.step .power b = .more .power := by
  simp [NumberPart.step, digit]

/-- A place behind which an exponent may follow. -/
def NumberPart.Marks (part : NumberPart) : Prop :=
  part.complete ∧ ∀ b ∈ [lowerE, upperE], part.step b = .more .mark

theorem NumberPart.Marks.of_both {part : NumberPart} (complete : part.complete)
    (lower : part.step lowerE = .more .mark) (upper : part.step upperE = .more .mark) :
    part.Marks := by
  refine ⟨complete, fun b hb => ?_⟩
  simp only [List.mem_cons, List.not_mem_nil, or_false] at hb
  rcases hb with rfl | rfl
  · exact lower
  · exact upper

theorem scan_exponent {part : NumberPart} {e : Bytes} (marks : part.Marks) (h : IsExponent e)
    (stops : Stops rest) :
    scan stack (.number part) (e ++ rest) = scan stack .ended rest := by
  have power {part : NumberPart} {s : Bytes} (enters : ∀ b, isDigit b → part.step b = .more .power)
      (digits : Digits s) :
      scan stack (.number part) (s ++ rest) = scan stack .ended rest := by
    rw [scan_first_digits enters (fun b hb => (NumberPart.step_digit hb).2.2.2.2.2) digits]
    exact scan_stops rfl stops
  cases h with
  | none => exact scan_stops marks.1 stops
  | @some mark sign s marked signed digits =>
      rw [List.append_assoc, List.cons_append, scan_more (marks.2 mark marked)]
      have unsigned := power (fun b hb => (NumberPart.step_digit hb).2.2.2.1) digits
      have signed' := power (fun b hb => (NumberPart.step_digit hb).2.2.2.2.1) digits
      simp only [List.mem_cons, List.not_mem_nil, or_false] at signed
      rcases signed with rfl | rfl | rfl
      · exact unsigned
      · rw [List.singleton_append, scan_more rfl, signed']
      · rw [List.singleton_append, scan_more rfl, signed']

theorem scan_fraction {part : NumberPart} {f e : Bytes} (marks : part.Marks)
    (points : part.step point = .more .point) (hf : IsFraction f) (he : IsExponent e)
    (stops : Stops rest) :
    scan stack (.number part) (f ++ e ++ rest) = scan stack .ended rest := by
  have fraction : NumberPart.Marks .fraction := .of_both rfl rfl rfl
  cases hf with
  | none => exact scan_exponent marks he stops
  | some digits =>
      rw [List.append_assoc, List.cons_append, scan_more points,
        scan_first_digits (fun b hb => (NumberPart.step_digit hb).2.1)
          (fun b hb => (NumberPart.step_digit hb).2.2.1) digits]
      exact scan_exponent fraction he stops

/-- Behind the digits before the point a fraction or an exponent may follow. -/
theorem scan_whole {sign w : Bytes} (signed : sign ∈ [[], [minus]]) (h : IsWhole w) :
    ∃ part : NumberPart, part.Marks ∧ part.step point = .more .point ∧ ∀ stack rest,
      scan stack .value (sign ++ w ++ rest) = scan stack (.number part) rest := by
  simp only [List.mem_cons, List.not_mem_nil, or_false] at signed
  have negative (stack : List Container) :
      Place.step stack .value minus = .ok (stack, .number .sign) := rfl
  cases h with
  | zero =>
      refine ⟨.zero, .of_both rfl rfl rfl, rfl, fun stack rest => ?_⟩
      have first : Place.step stack .value 0x30 = .ok (stack, .number .zero) := rfl
      rcases signed with rfl | rfl
      · exact scan_cons first fun h => nomatch h
      · exact (scan_cons (negative stack) fun h => nomatch h).trans (scan_more rfl)
  | @positive b s digit ne_zero more =>
      refine ⟨.whole, .of_both rfl rfl rfl, rfl, fun stack rest => ?_⟩
      have stays : scan stack (.number .whole) (s ++ rest) = scan stack (.number .whole) rest :=
        scan_digits (fun b hb => (NumberPart.step_digit hb).1) more
      have first : Place.step stack .value b = .ok (stack, .number .whole) :=
        step_value_of_digit digit ne_zero
      have behind : NumberPart.step .sign b = .more .whole := by
        simp [NumberPart.step, digit, ne_zero]
      rcases signed with rfl | rfl
      · exact (scan_cons first fun h => nomatch h).trans stays
      · exact (scan_cons (negative stack) fun h => nomatch h).trans
          ((scan_more behind).trans stays)

theorem scan_number {n : Bytes} (h : IsNumber n) (stops : Stops rest) :
    scan stack .value (n ++ rest) = scan stack .ended rest := by
  cases h with
  | @mk sign w f e signed whole fraction exponent =>
      obtain ⟨part, marks, points, crossed⟩ := scan_whole signed whole
      have split : sign ++ w ++ f ++ e ++ rest = sign ++ w ++ (f ++ e ++ rest) := by
        simp only [List.append_assoc]
      rw [split, crossed]
      exact scan_fraction marks points fraction exponent stops

/-! ### Containers -/

namespace Container

/-- Where an entry of a container begins. -/
def entry : Container → Place
  | .list => .value
  | .object => .key

/-- The byte that ends a container. -/
def close : Container → UInt8
  | .list => closeBracket
  | .object => closeBrace

/-- A scan that is put before the entry gets to its end. -/
structure Crosses (inner : Container) (token : Bytes) : Prop where
  /-- The entry is not mistaken for the end of the container. -/
  begins : ∃ b t, token = b :: t ∧ isSpace b = false ∧ b ≠ inner.close
  scan_eq : ∀ outer rest, Stops rest →
    scan (inner :: outer) inner.entry (token ++ rest) = scan (inner :: outer) .ended rest

variable {inner : Container}

theorem scan_comma :
    scan (inner :: outer) .ended (comma :: s) = scan (inner :: outer) inner.entry s := by
  cases inner with
  | list => exact scan_cons rfl fun _ => List.cons_ne_nil _ _
  | object => exact scan_cons rfl fun _ => List.cons_ne_nil _ _

theorem scan_close {place : Place} (h : place = .opened ∨ place = .ended) :
    scan (inner :: outer) place (inner.close :: s) = scan outer .ended s := by
  rcases h with rfl | rfl <;> cases inner <;> exact scan_cons rfl fun _ => List.cons_ne_nil _ _

theorem skips_entry : inner.entry.Skips stack := by
  cases inner <;> exact trivial

/-- The first entry begins where the container has been opened as every other begins. -/
theorem scan_opened (h : isSpace b = false) (other : b ≠ inner.close) :
    scan (inner :: outer) .opened (b :: s) = scan (inner :: outer) inner.entry (b :: s) := by
  cases inner with
  | list =>
      have same : Place.step (.list :: outer) .opened b = Place.step (.list :: outer) .value b := by
        simp only [Place.step, h, Bool.false_eq_true, ↓reduceIte]
        exact if_neg other
      show (Place.step (.list :: outer) .opened b >>= _)
        = (Place.step (.list :: outer) .value b >>= _)
      rw [same]
  | object =>
      have same : Place.step (.object :: outer) .opened b
          = Place.step (.object :: outer) .key b := by
        simp only [Place.step, h, Bool.false_eq_true, ↓reduceIte]
        exact if_neg other
      show (Place.step (.object :: outer) .opened b >>= _)
        = (Place.step (.object :: outer) .key b >>= _)
      rw [same]

/-- A scan that is put before the entries of a container gets to its end. -/
theorem scan_entries (inner : Container) {tokens : List Bytes} (listed : Listed tokens s)
    (some : tokens ≠ []) (crosses : ∀ token ∈ tokens, inner.Crosses token) :
    scan (inner :: outer) inner.entry (s ++ inner.close :: rest) = scan outer .ended rest := by
  have stops_close (rest : Bytes) : Stops (inner.close :: rest) :=
    stops_cons (by cases inner <;> decide)
  have ended (after : Bytes) (blank : Blank after) (rest : Bytes) :
      scan (inner :: outer) .ended (after ++ rest) = scan (inner :: outer) .ended rest :=
    scan_blank (List.cons_ne_nil inner outer) blank
  induction listed with
  | nil => exact absurd rfl some
  | @one before token after blank blank' =>
      have crossed := (crosses token (List.mem_cons_self ..)).scan_eq outer
      rw [List.append_assoc, List.append_assoc, scan_blank skips_entry blank,
        crossed _ (stops_append blank' (stops_close rest)), ended after blank']
      exact scan_close (.inr rfl)
  | @more before token after next s tokens blank blank' _ ih =>
      have crossed := (crosses token (List.mem_cons_self ..)).scan_eq outer
      simp only [List.append_assoc, List.cons_append]
      rw [scan_blank skips_entry blank,
        crossed _ (stops_append blank' (stops_cons (by decide))), ended after blank', scan_comma]
      exact ih (List.cons_ne_nil _ _) fun token hmem => crosses token (List.mem_cons_of_mem _ hmem)

/-- A scan that is put inside an opened container gets to its end. -/
theorem scan_opened_entries (inner : Container) {tokens : List Bytes} (listed : Listed tokens s)
    (crosses : ∀ token ∈ tokens, inner.Crosses token) :
    scan (inner :: outer) .opened (s ++ inner.close :: rest) = scan outer .ended rest := by
  -- behind the white space stands the first entry, if there is one
  have opened {before token : Bytes} (after : Bytes) (blank : Blank before)
      (begins : ∃ b t, token = b :: t ∧ isSpace b = false ∧ b ≠ inner.close) :
      scan (inner :: outer) .opened (before ++ token ++ after)
        = scan (inner :: outer) inner.entry (before ++ token ++ after) := by
    obtain ⟨b, t, rfl, space, other⟩ := begins
    have skips : Place.opened.Skips (inner :: outer) := trivial
    rw [List.append_assoc, scan_blank skips blank, scan_blank skips_entry blank]
    exact scan_opened space other
  have entries (some : tokens ≠ []) :
      scan (inner :: outer) inner.entry (s ++ inner.close :: rest) = scan outer .ended rest :=
    scan_entries inner listed some crosses
  cases listed with
  | nil blank =>
      have skips : Place.opened.Skips (inner :: outer) := trivial
      rw [scan_blank skips blank]
      exact scan_close (.inl rfl)
  | @one before token after blank =>
      rw [← entries (List.cons_ne_nil _ _), List.append_assoc (before ++ token)]
      exact opened _ blank (crosses token (List.mem_cons_self ..)).begins
  | @more before token after next s tokens blank =>
      rw [← entries (List.cons_ne_nil _ _), List.append_assoc (before ++ token),
        List.append_assoc (before ++ token)]
      exact opened _ blank (crosses token (List.mem_cons_self ..)).begins

end Container

/-! ### Values -/

/-- A scan of a member gets to the end of its value. -/
theorem crosses_member {member : MemberText} (named : member.Named)
    (value : ∀ stack rest, Stops rest →
      scan stack .value (member.value ++ rest) = scan stack .ended rest) :
    Container.Crosses .object member.bytes := by
  refine ⟨⟨_, _, rfl, rfl, by decide⟩, fun outer rest stops => ?_⟩
  have step : Place.step (.object :: outer) .key quote
      = .ok (.object :: outer, .text true .plain) := rfl
  have colon : Place.step (.object :: outer) .colon Ascii.colon
      = .ok (.object :: outer, .value) := rfl
  have skips : Place.colon.Skips (.object :: outer) := trivial
  have skips' : Place.value.Skips (.object :: outer) := trivial
  simp only [MemberText.bytes, quoted, List.append_assoc, List.cons_append, List.nil_append]
  show scan (.object :: outer) .key _ = _
  rw [scan_cons step (by simp), scan_content named.key true]
  show scan (.object :: outer) .colon _ = _
  rw [scan_blank skips named.before, scan_cons colon (by simp), scan_blank skips' named.after]
  exact value _ _ stops

/-- Put before a value, a scan gets to the end of the value. -/
theorem scan_value {v : Bytes} (h : IsValue v) (stack : List Container) (rest : Bytes)
    (stops : Stops rest) : scan stack .value (v ++ rest) = scan stack .ended rest := by
  have word {stack : List Container} {rest : Bytes} {b : UInt8} {left : Bytes}
      (step : Place.step stack .value b = .ok (stack, .word left)) (some : left ≠ []) :
      scan stack .value (b :: left ++ rest) = scan stack .ended rest :=
    (scan_cons step fun h => nomatch h).trans (scan_word some)
  induction h generalizing stack rest with
  | null | true | false => exact word rfl (List.cons_ne_nil _ _)
  | number number => exact scan_number number stops
  | @string s content =>
      have step : Place.step stack .value quote = .ok (stack, .text false .plain) := rfl
      rw [quoted, List.cons_append, List.append_assoc,
        scan_cons step (by simp)]
      exact scan_content content false
  | @list tokens s listed values ih =>
      have step : Place.step stack .value openBracket = .ok (.list :: stack, .opened) := rfl
      rw [bracketed, List.cons_append, List.append_assoc,
        scan_cons step (by simp)]
      refine Container.scan_opened_entries .list listed fun token hmem => ?_
      obtain ⟨b, t, rfl, begins⟩ := (values token hmem).begins
      exact ⟨⟨b, t, rfl, begins.isSpace_eq_false, begins.ne (by decide)⟩,
        fun outer rest => ih _ hmem _ rest⟩
  | @object members s listed named values ih =>
      have step : Place.step stack .value openBrace = .ok (.object :: stack, .opened) := rfl
      rw [braced, List.cons_append, List.append_assoc,
        scan_cons step (by simp)]
      refine Container.scan_opened_entries .object listed fun token hmem => ?_
      obtain ⟨member, hmember, rfl⟩ := List.mem_map.mp hmem
      exact crosses_member (named member hmember) (ih member hmember)

/-- A value is skipped, and what follows it is left. -/
theorem skipValue_of_isValue {v rest : Bytes} (h : IsValue v) (stops : Stops rest) :
    skipValue (v ++ rest) = .ok rest := by
  rw [skipValue, scan_value h [] rest stops]
  cases rest <;> rfl

end BlogGateway.Json
