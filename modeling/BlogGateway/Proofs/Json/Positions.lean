/-
Records are read from arrays as far as these go.

An array has the values of a record in the order of its fields and may stop early, when the
fields that are left have a value of their own.  `Enumerates` says what the array must have, and
a record is read from every spelling of such an array.

Reading takes one element for each field, so the induction is on the fields and the elements
together; where the elements end, every field that is left finds the closing bracket.
-/
import BlogGateway.Json.Record
import BlogGateway.Proofs.Json.Reading

namespace BlogGateway.Json

open Ascii

/-- The tokens are read as the values of the first fields, in their order, and the other fields
have the values that go without saying. -/
inductive Enumerates : (fields : List Field) → List Bytes → Values fields → Prop
  | nil : Enumerates [] [] ()
  | element {field : Field} {fields : List Field} {token : Bytes} {tokens : List Bytes}
      {value : field.Val} {values : Values fields} (reads : Reads field.read token value)
      (rest : Enumerates fields tokens values) :
      Enumerates (field :: fields) (token :: tokens) (value, values)
  | short {field : Field} {fields : List Field} {value : field.Val} {values : Values fields}
      (default : field.ifShort = some value) (rest : Enumerates fields [] values) :
      Enumerates (field :: fields) [] (value, values)

theorem Enumerates.isValue {fields : List Field} {tokens : List Bytes} {values : Values fields}
    (enumerates : Enumerates fields tokens values) : ∀ token ∈ tokens, IsValue token := by
  induction enumerates with
  | nil | short => exact fun _ hmem => nomatch hmem
  | element reads _ ih =>
      intro token hmem
      rcases List.mem_cons.mp hmem with rfl | hmem
      · exact reads.isValue
      · exact ih token hmem

variable {fields : List Field} {values : Values fields} {field : Field} {value : field.Val}
  {tokens : List Bytes} {token before s rest lead : Bytes} {index : Nat}

/-- Where there is no other element, the fields that are left have their own values. -/
theorem readPositions_close (wanted : String) (enumerates : Enumerates fields [] values)
    (blank : Blank before) (index : Nat) :
    readPositions wanted fields index (before ++ closeBracket :: rest)
      = .ok (values, before ++ closeBracket :: rest) := by
  induction fields generalizing index with
  | nil => rfl
  | cons field fields ih =>
      cases enumerates with
      | short default others =>
          rw [readPositions]
          simp only [nextElement_close blank, default, ih others, Except.mapError_ok, bind,
            Except.bind]
          rfl

/-- One element is read, and the others behind it. -/
theorem readPositions_cons (wanted : String) (fields : List Field)
    (leads : Leads (index == 0) lead) (blank : Blank before)
    (reads : Reads field.read token value) (stops : Stops rest) :
    readPositions wanted (field :: fields) index (lead ++ (before ++ token ++ rest))
      = (readPositions wanted fields (index + 1) rest).map
          fun (values, s) => ((value, values), s) := by
  have read_eq := reads.read_eq [] rest blank_nil stops
  rw [List.nil_append] at read_eq
  rw [readPositions]
  simp only [nextElement_token leads blank reads.isValue, read_eq, Except.mapError_ok, bind,
    Except.bind]
  cases readPositions wanted fields (index + 1) rest <;> rfl

/-- The elements that are listed are read into the first fields. -/
theorem readPositions_of_listed (wanted : String) (listed : Listed tokens s) (some : tokens ≠ [])
    (enumerates : Enumerates fields tokens values) (leads : Leads (index == 0) lead) :
    ∃ after, Blank after ∧
      readPositions wanted fields index (lead ++ (s ++ closeBracket :: rest))
        = .ok (values, after ++ closeBracket :: rest) := by
  induction enumerates generalizing s index lead with
  | nil | short => exact absurd rfl some
  | element reads others ih =>
      obtain ⟨before, tail, blank, stops, behind, split⟩ :=
        listed.uncons closeBracket (by decide) rest
      rw [split, readPositions_cons wanted _ leads blank reads stops]
      cases behind with
      | @last after none blank' =>
          subst none
          exact ⟨after, blank', by rw [readPositions_close wanted others blank']; rfl⟩
      | @more lead s some leads' listed' =>
          have leads' : Leads (index + 1 == 0) lead := leads'
          obtain ⟨after, blank', ended⟩ := ih listed' some leads'
          exact ⟨after, blank', by rw [ended]; rfl⟩

/-- **A record is read from every array that enumerates its values.** -/
theorem reads_positions (name : String) (enumerates : Enumerates fields tokens values)
    (listed : Listed tokens s) : Reads (readRecord name fields) (bracketed s) values := by
  refine reads_atValue (.list listed enumerates.isValue) fun rest stops => ?_
  rw [List.append_assoc, List.singleton_append]
  simp only [↓reduceIte]
  have ended : ∃ after, Blank after ∧
      readPositions (recordSize name fields.length) fields 0 (s ++ closeBracket :: rest)
        = .ok (values, after ++ closeBracket :: rest) := by
    cases tokens with
    | nil =>
        cases listed with
        | nil blank => exact ⟨s, blank, readPositions_close _ enumerates blank 0⟩
    | cons token tokens =>
        have leads : Leads (0 == 0) [] := rfl
        exact readPositions_of_listed _ listed (List.cons_ne_nil _ _) enumerates leads
  obtain ⟨after, blank, ended⟩ := ended
  simp only [ended, endList_close blank, Except.mapError_ok, bind, Except.bind]
  rfl

end BlogGateway.Json
