/-
What a scan has crossed is a value.

`Crossing` puts a scan before a value and lets it run to the end.  Here a scan has come to an end,
and what it has taken is told apart.  From the place where it stood the bytes complete what had
been begun there, and behind that they close the containers that were open: `Place.Completes` says
so for every place, in words of the grammar and without the scan.

A byte in front is one more step of the scan.  So there is one lemma about a step, with a case for
every place, and one about a run, which is an induction over the bytes.
-/
import BlogGateway.Proofs.Json.Raw
import BlogGateway.Proofs.Json.Reading
import Mathlib.Data.List.TakeWhile

namespace BlogGateway.Json

open Ascii

variable {stack stack' outer : List Container} {place place' : Place} {inner : Container}
  {b : UInt8} {s rest before token tail : Bytes} {tokens : List Bytes}

/-! ### White space in front -/

theorem blank_cons (space : isSpace b = true) (blank : Blank s) : Blank (b :: s) := by
  intro b' hmem
  rcases List.mem_cons.mp hmem with rfl | hmem
  · exact isSpace_iff.mp space
  · exact blank b' hmem

/-- What is skipped is white space. -/
theorem exists_blank (s : Bytes) : ∃ before, Blank before ∧ s = before ++ skipSpace s :=
  ⟨s.takeWhile isSpace, fun _ hmem => isSpace_iff.mp (List.mem_takeWhile_imp hmem),
    List.takeWhile_append_dropWhile.symm⟩

theorem blank_of_skipSpace_eq_nil (h : skipSpace s = []) : Blank s := by
  obtain ⟨before, blank, split⟩ := exists_blank s
  rw [h, List.append_nil] at split
  rwa [split]

theorem Listed.cons_space (space : isSpace b = true) (listed : Listed tokens s) :
    Listed tokens (b :: s) := by
  cases listed with
  | nil blank => exact .nil (blank_cons space blank)
  | one blank blank' => exact .one (blank_cons space blank) blank'
  | more blank blank' others => exact .more (blank_cons space blank) blank' others

theorem Behind.cons_space {close : UInt8} (space : isSpace b = true)
    (behind : Behind close rest tokens s) : Behind close rest tokens (b :: s) := by
  cases behind with
  | last none blank => exact .last none (blank_cons space blank)
  | @more lead s some leads listed =>
      obtain ⟨blank, hblank, rfl⟩ := leads
      have leads : Leads false (b :: blank ++ [comma]) :=
        ⟨b :: blank, blank_cons space hblank, rfl⟩
      exact .more some leads listed

/-- An entry is put in front of what stands behind it. -/
theorem Behind.listed {close : UInt8} (behind : Behind close rest tokens tail)
    (blank : Blank before) : ∃ content, Listed (token :: tokens) content ∧
      before ++ token ++ tail = content ++ close :: rest := by
  cases behind with
  | @last after none blank' =>
      subst none
      exact ⟨before ++ token ++ after, .one blank blank', by simp⟩
  | @more lead s some leads listed =>
      obtain ⟨after, blank', rfl⟩ := leads
      obtain ⟨next, others, rfl⟩ := List.exists_cons_of_ne_nil some
      exact ⟨before ++ token ++ after ++ comma :: s, .more blank blank' listed, by simp⟩

/-! ### Numbers -/

/-- The bytes complete a number of which this much has been taken. -/
def NumberPart.Completes : NumberPart → Bytes → Prop
  | .sign, s => ∃ w f e, IsWhole w ∧ IsFraction f ∧ IsExponent e ∧ s = w ++ f ++ e
  | .zero, s => ∃ f e, IsFraction f ∧ IsExponent e ∧ s = f ++ e
  | .whole, s =>
    ∃ d f e, (∀ b ∈ d, isDigit b) ∧ IsFraction f ∧ IsExponent e ∧ s = d ++ f ++ e
  | .point, s => ∃ d e, Digits d ∧ IsExponent e ∧ s = d ++ e
  | .fraction, s => ∃ d e, (∀ b ∈ d, isDigit b) ∧ IsExponent e ∧ s = d ++ e
  | .mark, s => ∃ sign d, sign ∈ [[], [plus], [minus]] ∧ Digits d ∧ s = sign ++ d
  | .markSign, s => Digits s
  | .power, s => ∀ b ∈ s, isDigit b

namespace NumberPart

theorem completes_nil {part : NumberPart} (complete : part.complete) : part.Completes [] := by
  cases part with
  | sign | point | mark | markSign => cases complete
  | zero => exact ⟨[], [], .none, .none, rfl⟩
  | whole => exact ⟨[], [], [], by simp, .none, .none, rfl⟩
  | fraction => exact ⟨[], [], by simp, .none, rfl⟩
  | power => exact fun _ hmem => nomatch hmem

theorem complete_of_ended {part : NumberPart} (step : part.step b = .ended) : part.complete := by
  cases part with
  | zero | whole | fraction | power => rfl
  | sign | point | mark | markSign =>
      simp only [NumberPart.step] at step
      split at step
      · cases step
      · try split at step
        all_goals cases step

theorem digits_cons (digit : isDigit b) (digits : ∀ d ∈ s, isDigit d) : Digits (b :: s) :=
  ⟨List.cons_ne_nil b s, List.forall_mem_cons.mpr ⟨digit, digits⟩⟩

theorem isExponent_cons (marked : b = lowerE ∨ b = upperE) (completes : mark.Completes s) :
    IsExponent (b :: s) := by
  obtain ⟨sign, d, signed, digits, rfl⟩ := completes
  exact .some (by simpa using marked) signed digits

/-- A byte that leads a number on stands in front of what completes it. -/
theorem completes_cons {part part' : NumberPart} (step : part.step b = .more part')
    (completes : part'.Completes s) : part.Completes (b :: s) := by
  cases part with
  | sign =>
      simp only [NumberPart.step] at step
      split at step
      · rename_i zero
        subst zero
        cases step
        obtain ⟨f, e, fraction, exponent, rfl⟩ := completes
        exact ⟨[0x30], f, e, .zero, fraction, exponent, rfl⟩
      · split at step
        · rename_i ne_zero digit
          cases step
          obtain ⟨d, f, e, digits, fraction, exponent, rfl⟩ := completes
          exact ⟨b :: d, f, e, .positive digit ne_zero digits, fraction, exponent, rfl⟩
        · cases step
  | zero =>
      simp only [NumberPart.step] at step
      split at step
      · cases step
      · split at step
        · rename_i pointed
          subst pointed
          cases step
          obtain ⟨d, e, digits, exponent, rfl⟩ := completes
          exact ⟨Ascii.point :: d, e, .some digits, exponent, rfl⟩
        · split at step
          · rename_i marked
            cases step
            exact ⟨[], b :: s, .none, isExponent_cons (by simpa using marked) completes, rfl⟩
          · cases step
  | whole =>
      simp only [NumberPart.step] at step
      split at step
      · rename_i digit
        cases step
        obtain ⟨d, f, e, digits, fraction, exponent, rfl⟩ := completes
        exact ⟨b :: d, f, e, (digits_cons digit digits).all, fraction, exponent, rfl⟩
      · split at step
        · rename_i pointed
          subst pointed
          cases step
          obtain ⟨d, e, digits, exponent, rfl⟩ := completes
          exact ⟨[], Ascii.point :: d, e, by simp, .some digits, exponent, rfl⟩
        · split at step
          · rename_i marked
            cases step
            exact ⟨[], [], b :: s, by simp, .none,
              isExponent_cons (by simpa using marked) completes, rfl⟩
          · cases step
  | point =>
      simp only [NumberPart.step] at step
      split at step
      · rename_i digit
        cases step
        obtain ⟨d, e, digits, exponent, rfl⟩ := completes
        exact ⟨b :: d, e, digits_cons digit digits, exponent, rfl⟩
      · cases step
  | fraction =>
      simp only [NumberPart.step] at step
      split at step
      · rename_i digit
        cases step
        obtain ⟨d, e, digits, exponent, rfl⟩ := completes
        exact ⟨b :: d, e, (digits_cons digit digits).all, exponent, rfl⟩
      · split at step
        · rename_i marked
          cases step
          exact ⟨[], b :: s, by simp, isExponent_cons (by simpa using marked) completes, rfl⟩
        · cases step
  | mark =>
      simp only [NumberPart.step] at step
      split at step
      · rename_i digit
        cases step
        exact ⟨[], b :: s, by simp, digits_cons digit completes, rfl⟩
      · split at step
        · rename_i signed
          cases step
          exact ⟨[b], s, by simpa using signed, completes, rfl⟩
        · cases step
  | markSign =>
      simp only [NumberPart.step] at step
      split at step
      · rename_i digit
        cases step
        exact digits_cons digit completes
      · cases step
  | power =>
      simp only [NumberPart.step] at step
      split at step
      · rename_i digit
        cases step
        exact (digits_cons digit completes).all
      · cases step

end NumberPart

/-! ### Strings -/

/-- The bytes complete the content of a string of which this much has been taken. -/
def TextPart.Completes : TextPart → Bytes → Prop
  | .plain, s => IsContent s
  | .escape, s => IsContent (backslash :: s)
  | .digits left good, s => good = true ∧ ∃ digits content, digits.length = max 1 left ∧
    (∀ d ∈ digits, (hexValue? d).isSome) ∧ IsContent content ∧ s = digits ++ content

/-- Four digits and the content behind them complete an escape by number. -/
theorem isContent_unit (completes : (TextPart.digits 4 true).Completes s) :
    IsContent (backslash :: lowerU :: s) := by
  obtain ⟨-, digits, content, four, hex, rest, rfl⟩ := completes
  obtain ⟨a, b, c, d, rfl⟩ : ∃ a b c d, digits = [a, b, c, d] := by
    match digits, four with
    | [a, b, c, d], _ => exact ⟨a, b, c, d, rfl⟩
  exact .unit hex rest

/-- A byte of a string either ends it, or stands in front of what completes its content. -/
theorem TextPart.completes_cons {isKey : Bool} {part : TextPart}
    (step : part.step isKey b = .ok place) :
    (part = .plain ∧ b = quote ∧ place = if isKey then .colon else .ended) ∨
      ∃ part', place = .text isKey part' ∧ ∀ s, part'.Completes s → part.Completes (b :: s) := by
  cases part with
  | plain =>
      simp only [TextPart.step] at step
      split at step
      · exact .inl ⟨rfl, ‹_›, (Except.ok.inj step).symm⟩
      · split at step
        · rename_i ne_quote escaped
          subst escaped
          exact .inr ⟨.escape, (Except.ok.inj step).symm, fun s completes => completes⟩
        · split at step
          · cases step
          · rename_i ne_quote ne_backslash printable
            exact .inr ⟨.plain, (Except.ok.inj step).symm, fun s completes =>
              .plain (UInt8.not_lt.mp printable) ne_quote ne_backslash completes⟩
  | escape =>
      simp only [TextPart.step] at step
      split at step
      · rename_i numbered
        subst numbered
        exact .inr ⟨.digits 4 true, (Except.ok.inj step).symm, fun s => isContent_unit⟩
      · split at step
        · rename_i known
          refine .inr ⟨.plain, (Except.ok.inj step).symm, fun s completes => .escape ?_ completes⟩
          simpa [or_assoc] using known
        · cases step
  | digits left good =>
      simp only [TextPart.step] at step
      split at step
      · rename_i more
        refine .inr ⟨_, (Except.ok.inj step).symm, fun s completes => ?_⟩
        obtain ⟨good', digits, content, count, hex, rest, rfl⟩ := completes
        rw [Bool.and_eq_true] at good'
        refine ⟨good'.1, b :: digits, content, ?_, List.forall_mem_cons.mpr ⟨good'.2, hex⟩, rest,
          rfl⟩
        rw [List.length_cons]
        omega
      · rename_i last
        split at step
        · rename_i good'
          rw [Bool.and_eq_true] at good'
          refine .inr ⟨.plain, (Except.ok.inj step).symm, fun s completes => ?_⟩
          exact ⟨good'.1, [b], s, by simp; omega, by simpa using good'.2, completes, rfl⟩
        · cases step

/-! ### Containers -/

/-- The bytes are an entry of a container: a value, or a member. -/
def Container.IsEntry : Container → Bytes → Prop
  | .list, token => IsValue token
  | .object, token => ∃ member : MemberText, (member.Named ∧ IsValue member.value) ∧
    member.bytes = token

/-- The bytes behind a value close the containers that are open, each with the entries that are
still to come. -/
def Closes : List Container → Bytes → Prop
  | [], s => s = []
  | inner :: outer, s => ∃ tokens rest, Behind inner.close rest tokens s ∧
    (∀ token ∈ tokens, inner.IsEntry token) ∧ Closes outer rest

/-- The bytes are an entry with white space before it, and behind it the containers are closed. -/
def Enters (inner : Container) (stack : List Container) (s : Bytes) : Prop :=
  ∃ before token tail, Blank before ∧ inner.IsEntry token ∧ Closes stack tail ∧
    s = before ++ token ++ tail

/-- The bytes are the rest of the container that has just been opened, and behind it the others
are closed. -/
def Opened (inner : Container) (outer : List Container) (s : Bytes) : Prop :=
  ∃ tokens content rest, Listed tokens content ∧ (∀ token ∈ tokens, inner.IsEntry token) ∧
    Closes outer rest ∧ s = content ++ inner.close :: rest

/-- The bytes are the value of a member from its colon on, and behind it the containers are
closed. -/
def FromColon (stack : List Container) (s : Bytes) : Prop :=
  ∃ before after value tail, Blank before ∧ Blank after ∧ IsValue value ∧ Closes stack tail ∧
    s = before ++ colon :: after ++ value ++ tail

/-- The bytes take a scan from here to the end of the value in which it began. -/
def Place.Completes (stack : List Container) : Place → Bytes → Prop
  | .value, s => Enters .list stack s
  | .opened, s => ∃ inner outer, stack = inner :: outer ∧ Opened inner outer s
  | .ended, s => Closes stack s
  | .key, s => Enters .object stack s
  | .colon, s => FromColon stack s
  | .word left, s => ∃ tail, Closes stack tail ∧ s = left ++ tail
  | .text isKey part, s => ∃ content tail, part.Completes content ∧
    (if isKey then FromColon stack tail else Closes stack tail) ∧ s = content ++ quote :: tail
  | .number part, s => ∃ n tail, part.Completes n ∧ Closes stack tail ∧ s = n ++ tail

/-! ### One step -/

/-- Behind an entry the rest of its container is closed, so with the entry the container has what
it was opened for. -/
theorem Enters.listed (enters : Enters inner (inner :: outer) s) :
    ∃ tokens content rest, tokens ≠ [] ∧ Listed tokens content ∧
      (∀ token ∈ tokens, inner.IsEntry token) ∧ Closes outer rest ∧
      s = content ++ inner.close :: rest := by
  obtain ⟨before, token, tail, blank, entry, ⟨tokens, rest, behind, entries, closes⟩, rfl⟩ := enters
  obtain ⟨content, listed, split⟩ := behind.listed blank
  exact ⟨_, content, rest, List.cons_ne_nil token tokens, listed,
    List.forall_mem_cons.mpr ⟨entry, entries⟩, closes, split⟩

theorem Enters.opened (enters : Enters inner (inner :: outer) s) : Opened inner outer s := by
  obtain ⟨tokens, content, rest, -, others⟩ := enters.listed
  exact ⟨tokens, content, rest, others⟩

theorem Enters.cons_space (space : isSpace b = true) (enters : Enters inner stack s) :
    Enters inner stack (b :: s) := by
  obtain ⟨before, token, tail, blank, entry, closes, rfl⟩ := enters
  exact ⟨b :: before, token, tail, blank_cons space blank, entry, closes, rfl⟩

theorem Opened.cons_space (space : isSpace b = true) (opened : Opened inner outer s) :
    Opened inner outer (b :: s) := by
  obtain ⟨tokens, content, rest, listed, entries, closes, rfl⟩ := opened
  exact ⟨tokens, b :: content, rest, listed.cons_space space, entries, closes, rfl⟩

theorem Closes.cons_space (space : isSpace b = true) (closes : Closes (inner :: outer) s) :
    Closes (inner :: outer) (b :: s) := by
  obtain ⟨tokens, rest, behind, entries, closes⟩ := closes
  exact ⟨tokens, rest, behind.cons_space space, entries, closes⟩

theorem FromColon.cons_space (space : isSpace b = true) (member : FromColon stack s) :
    FromColon stack (b :: s) := by
  obtain ⟨before, after, value, tail, blank, blank', isValue, closes, rfl⟩ := member
  exact ⟨b :: before, after, value, tail, blank_cons space blank, blank', isValue, closes, rfl⟩

/-- A container without entries is its end. -/
theorem Opened.empty (inner : Container) (closes : Closes outer s) :
    Opened inner outer (inner.close :: s) :=
  ⟨[], [], s, .nil blank_nil, by simp, closes, rfl⟩

/-- An entry without white space before it. -/
theorem Enters.of_entry (inner : Container) (entry : inner.IsEntry token)
    (closes : Closes stack tail) : Enters inner stack (token ++ tail) :=
  ⟨[], token, tail, blank_nil, entry, closes, rfl⟩

/-- Where each of a list is made of something, all of them are. -/
theorem exists_map {α β : Type} {make : α → β} {P : α → Prop} {made : List β}
    (each : ∀ b ∈ made, ∃ a, P a ∧ make a = b) :
    ∃ parts : List α, parts.map make = made ∧ ∀ a ∈ parts, P a := by
  induction made with
  | nil => exact ⟨[], rfl, by simp⟩
  | cons b made ih =>
      obtain ⟨⟨a, own, rfl⟩, others⟩ := List.forall_mem_cons.mp each
      obtain ⟨parts, rfl, rest⟩ := ih others
      exact ⟨a :: parts, rfl, List.forall_mem_cons.mpr ⟨own, rest⟩⟩

/-- The bytes are a value, and behind it the containers are closed. -/
def Begun (stack : List Container) (s : Bytes) : Prop :=
  ∃ value tail, IsValue value ∧ Closes stack tail ∧ s = value ++ tail

theorem Begun.enters (begun : Begun stack s) : Enters .list stack s := by
  obtain ⟨value, tail, isValue, closes, rfl⟩ := begun
  exact Enters.of_entry .list isValue closes

/-- A list is a value when it has been opened and its end is there. -/
theorem Opened.list (opened : Opened .list stack s) : Begun stack (openBracket :: s) := by
  obtain ⟨tokens, content, rest, listed, entries, closes, rfl⟩ := opened
  exact ⟨bracketed content, rest, .list listed entries, closes,
    by simp [bracketed, Container.close]⟩

/-- An object is a value when it has been opened and its end is there. -/
theorem Opened.object (opened : Opened .object stack s) : Begun stack (openBrace :: s) := by
  obtain ⟨tokens, content, rest, listed, entries, closes, rfl⟩ := opened
  obtain ⟨members, rfl, each⟩ := exists_map entries
  exact ⟨braced content, rest, .object listed (fun member hmem => (each member hmem).1)
    fun member hmem => (each member hmem).2, closes, by simp [braced, Container.close]⟩

/-- What completes a number behind the bytes that begin it makes it a value. -/
theorem begun_number {part : NumberPart} (first : Bytes)
    (completes : Place.Completes stack (.number part) s)
    (number : ∀ n, part.Completes n → IsNumber (first ++ n)) : Begun stack (first ++ s) := by
  obtain ⟨n, tail, rest, closes, rfl⟩ := completes
  exact ⟨first ++ n, tail, .number (number n rest), closes, (List.append_assoc ..).symm⟩

theorem begun_word {left : Bytes} (completes : Place.Completes stack (.word left) s)
    (value : IsValue (b :: left)) : Begun stack (b :: s) := by
  obtain ⟨tail, closes, rfl⟩ := completes
  exact ⟨b :: left, tail, value, closes, rfl⟩

/-- A byte that begins a value stands in front of what completes it. -/
theorem begun_of_beginValue (step : beginValue stack b = .ok (stack', place'))
    (completes : place'.Completes stack' s) : Begun stack (b :: s) := by
  simp only [beginValue] at step
  split at step
  · cases step
    subst_vars
    obtain ⟨inner, outer, same, opened⟩ := completes
    cases same
    exact opened.list
  split at step
  · cases step
    subst_vars
    obtain ⟨inner, outer, same, opened⟩ := completes
    cases same
    exact opened.object
  split at step
  · cases step
    subst_vars
    obtain ⟨content, tail, content', closes, rfl⟩ := completes
    exact ⟨quoted content, tail, .string content', closes, by simp [quoted]⟩
  split at step
  · cases step
    subst_vars
    refine begun_number [minus] completes fun n => ?_
    rintro ⟨w, f, e, whole, fraction, exponent, rfl⟩
    have number := @IsNumber.mk [minus] _ _ _ (by simp) whole fraction exponent
    simpa using number
  split at step
  · cases step
    subst_vars
    refine begun_number [0x30] completes fun n => ?_
    rintro ⟨f, e, fraction, exponent, rfl⟩
    have number := @IsNumber.mk [] _ _ _ (by simp) .zero fraction exponent
    simpa using number
  split at step
  · rename_i ne_zero digit
    cases step
    refine begun_number [b] completes fun n => ?_
    rintro ⟨d, f, e, digits, fraction, exponent, rfl⟩
    have number := @IsNumber.mk [] _ _ _ (by simp) (.positive digit ne_zero digits) fraction
      exponent
    simpa using number
  split at step
  · cases step
    subst_vars
    exact begun_word completes .null
  split at step
  · cases step
    subst_vars
    exact begun_word completes .true
  split at step
  · cases step
    subst_vars
    exact begun_word completes .false
  · cases step

/-- Behind an entry there is a comma, or the end of the container. -/
theorem of_afterEntry (step : afterEntry inner outer b = .ok (stack', place')) :
    (b = comma ∧ stack' = inner :: outer ∧ place' = inner.entry) ∨
      (b = inner.close ∧ stack' = outer ∧ place' = .ended) := by
  cases inner <;> grind [afterEntry, Container.close, Container.entry]

theorem Place.completes_entry : Place.Completes stack inner.entry s ↔ Enters inner stack s := by
  cases inner <;> rfl

theorem closes_of_afterEntry (step : afterEntry inner outer b = .ok (stack', place'))
    (completes : place'.Completes stack' s) : Closes (inner :: outer) (b :: s) := by
  rcases of_afterEntry step with ⟨rfl, rfl, rfl⟩ | ⟨rfl, rfl, rfl⟩
  · obtain ⟨tokens, content, rest, some, listed, entries, closes, rfl⟩ :=
      (Place.completes_entry.mp completes).listed
    have leads : Leads false [comma] := ⟨[], blank_nil, rfl⟩
    exact ⟨tokens, rest, .more some leads listed, entries, closes⟩
  · exact ⟨[], s, .last rfl blank_nil, by simp, completes⟩

/-- A member begins with the quote of its name. -/
theorem enters_of_key (completes : Place.Completes stack (.text true .plain) s) :
    Enters .object stack (quote :: s) := by
  obtain ⟨content, tail, key, ⟨before, after, value, rest, blank, blank', isValue, closes, rfl⟩,
    rfl⟩ := completes
  have isContent : IsContent content := key
  have entry : Container.object.IsEntry (MemberText.bytes ⟨content, before, after, value⟩) :=
    ⟨_, ⟨⟨isContent, blank, blank'⟩, isValue⟩, rfl⟩
  have enters := Enters.of_entry .object entry closes
  simpa [MemberText.bytes, quoted] using enters

/-- One byte more in front is one more step of the scan. -/
theorem Place.completes_cons (step : place.step stack b = .ok (stack', place'))
    (inside : place = .ended → stack ≠ []) (completes : place'.Completes stack' s) :
    place.Completes stack (b :: s) := by
  cases place with
  | number part => cases step
  | value =>
      simp only [Place.step] at step
      split at step
      · rename_i space
        cases step
        exact Enters.cons_space space completes
      · exact (begun_of_beginValue step completes).enters
  | opened =>
      simp only [Place.step] at step
      split at step
      · rename_i space
        cases step
        obtain ⟨inner, outer, rfl, opened⟩ := completes
        exact ⟨inner, outer, rfl, opened.cons_space space⟩
      · split at step
        · rename_i outer
          refine ⟨.list, outer, rfl, ?_⟩
          split at step
          · cases step
            subst_vars
            exact Opened.empty .list completes
          · exact (begun_of_beginValue step completes).enters.opened
        · rename_i outer
          refine ⟨.object, outer, rfl, ?_⟩
          split at step
          · cases step
            subst_vars
            exact Opened.empty .object completes
          · split at step
            · cases step
              subst_vars
              exact (enters_of_key completes).opened
            · cases step
        · cases step
  | ended =>
      obtain ⟨inner, outer, rfl⟩ := List.exists_cons_of_ne_nil (inside rfl)
      simp only [Place.step] at step
      split at step
      · rename_i space
        cases step
        exact Closes.cons_space space completes
      · exact closes_of_afterEntry step completes
  | key =>
      simp only [Place.step] at step
      split at step
      · rename_i space
        cases step
        exact Enters.cons_space space completes
      · split at step
        · cases step
          subst_vars
          exact enters_of_key completes
        · cases step
  | colon =>
      simp only [Place.step] at step
      split at step
      · rename_i space
        cases step
        exact FromColon.cons_space space completes
      · split at step
        · cases step
          subst_vars
          obtain ⟨after, value, tail, blank, isValue, closes, rfl⟩ := completes
          exact ⟨[], after, value, tail, blank_nil, blank, isValue, closes, rfl⟩
        · cases step
  | word left =>
      simp only [Place.step] at step
      split at step
      · cases step
      · split at step
        · cases step
          subst_vars
          exact ⟨s, completes, rfl⟩
        · cases step
      · split at step
        · cases step
          subst_vars
          obtain ⟨tail, closes, rfl⟩ := completes
          exact ⟨tail, closes, rfl⟩
        · cases step
  | text isKey part =>
      obtain ⟨place, ended, same⟩ := Except.map_eq_ok_iff.mp step
      cases same
      rcases TextPart.completes_cons ended with ⟨rfl, rfl, rfl⟩ | ⟨part', rfl, leads⟩
      · refine ⟨[], s, .nil, ?_, rfl⟩
        cases isKey with
        | true => exact completes
        | false => exact completes
      · obtain ⟨content, tail, rest, closes, rfl⟩ := completes
        exact ⟨b :: content, tail, leads content rest, closes, rfl⟩

/-! ### A whole run -/

/-- A scan that stops at the end of the bytes has nothing left to complete. -/
theorem completes_of_atEnd (h : place.atEnd stack = .ok rest) :
    rest = [] ∧ place.Completes stack [] := by
  refine ⟨eq_nil_of_atEnd h, ?_⟩
  cases place with
  | ended =>
      cases stack with
      | nil => rfl
      | cons inner outer => cases h
  | number part =>
      simp only [Place.atEnd] at h
      split at h
      · cases stack with
        | nil => exact ⟨[], [], NumberPart.completes_nil ‹_›, rfl, rfl⟩
        | cons inner outer => cases h
      · cases h
  | value | opened | key | colon | word | text => cases h

/-- **The bytes that a scan takes complete the value.** -/
theorem completes_of_scan (h : scan stack place s = .ok rest) :
    ∃ taken, s = taken ++ rest ∧ place.Completes stack taken := by
  induction s generalizing stack place with
  | nil =>
      rw [scan] at h
      obtain ⟨rfl, completes⟩ := completes_of_atEnd h
      exact ⟨[], rfl, completes⟩
  | cons b s ih =>
      -- a step, and then the rest of the run
      have stepped {place : Place} (inside : place = .ended → stack ≠ [])
          (h : (place.step stack b >>= fun next => scan next.1 next.2 s) = .ok rest) :
          ∃ taken, b :: s = taken ++ rest ∧ place.Completes stack taken := by
        obtain ⟨next, step, h⟩ := Except.bind_eq_ok_iff.mp h
        obtain ⟨taken, rfl, completes⟩ := ih h
        exact ⟨b :: taken, rfl, Place.completes_cons step inside completes⟩
      rw [scan.eq_def] at h
      cases place with
      | ended =>
          simp only at h
          split at h
          · rename_i top
            obtain rfl := List.isEmpty_iff.mp top
            obtain rfl := Except.ok.inj h
            exact ⟨[], rfl, rfl⟩
          · rename_i below
            exact stepped (fun _ => mt List.isEmpty_iff.mpr below) h
      | number part =>
          simp only at h
          split at h
          · rename_i part' step
            obtain ⟨taken, rfl, n, tail, completes, closes, rfl⟩ := ih h
            exact ⟨b :: (n ++ tail), rfl, b :: n, tail, NumberPart.completes_cons step completes,
              closes, rfl⟩
          · cases h
          · rename_i ended
            have complete := NumberPart.completes_nil (NumberPart.complete_of_ended ended)
            split at h
            · rename_i top
              obtain rfl := List.isEmpty_iff.mp top
              obtain rfl := Except.ok.inj h
              exact ⟨[], rfl, [], [], complete, rfl, rfl⟩
            · rename_i below
              obtain ⟨taken, split, closes⟩ := stepped (fun _ => mt List.isEmpty_iff.mpr below) h
              exact ⟨taken, split, [], taken, complete, closes, rfl⟩
      | value | opened | key | colon | word | text =>
          exact stepped (fun inside => by cases inside) h

/-- **What is skipped is a value, with white space before it.** -/
theorem isValue_of_skipValue (h : skipValue s = .ok rest) :
    ∃ before token, Blank before ∧ IsValue token ∧ s = before ++ token ++ rest := by
  obtain ⟨taken, rfl, before, token, tail, blank, isValue, closes, rfl⟩ := completes_of_scan h
  obtain rfl : tail = [] := closes
  exact ⟨before, token, blank, isValue, by simp⟩

end BlogGateway.Json
