/-
Records: values with named fields.

A record is described once, as the list of its fields, and that list drives everything:
reading from an object, whose members come in any order and may include others; reading from
an array, whose elements are the fields in order and may stop early; and the values
themselves, which are tuples of the field types.
-/
import BlogGateway.Json.Reader

namespace BlogGateway.Json

open Ascii

/-- One field of a record. -/
structure Field where
  name : String
  Val : Type
  read : Reader Val
  /-- The value when an object has no such member; without one the member is required. -/
  ifAbsent : Option Val
  /-- The value when an array stops before this field; without one it may not. -/
  ifShort : Option Val

/-- A field that may be left out in both forms. -/
def Field.optional {α : Type} (name : String) (read : Reader α) (default : α) : Field :=
  ⟨name, α, read, some default, some default⟩

/-- A field that must be there in both forms. -/
def Field.required {α : Type} (name : String) (read : Reader α) : Field :=
  ⟨name, α, read, none, none⟩

/-- The values of a record, field by field. -/
def Values : List Field → Type
  | [] => Unit
  | field :: fields => field.Val × Values fields

/-- The values of a record that is still being read. -/
def Slots : List Field → Type
  | [] => Unit
  | field :: fields => Option field.Val × Slots fields

/-- No field read yet. -/
def Slots.empty : (fields : List Field) → Slots fields
  | [] => ()
  | _ :: fields => (none, Slots.empty fields)

/-- Reads the value of the member `key` into the field of that name, from the colon on;
`none` when no field has the name. -/
def Slots.readMember (key : String) :
    (fields : List Field) → Slots fields → Option (Reader (Slots fields))
  | [], _ => none
  | field :: fields, (slot, slots) =>
    if key = field.name then
      some fun s =>
        match slot with
        | some _ => .error (.duplicateField field.name)
        | none => do
          let s ← (expectColon s).mapError Error.notJson
          let (value, s) ← field.read s
          pure ((some value, slots), s)
    else
      (Slots.readMember key fields slots).map fun read s => do
        let (slots, s) ← read s
        pure ((slot, slots), s)

/-- The values of an object all of whose members have been read. -/
def Slots.finish : (fields : List Field) → Slots fields → Except Error (Values fields)
  | [], _ => .ok ()
  | field :: fields, (slot, slots) =>
    match slot, field.ifAbsent with
    | some value, _ => (Slots.finish fields slots).map fun values => (value, values)
    | none, some value => (Slots.finish fields slots).map fun values => (value, values)
    | none, none => .error (.missingField field.name)

/-- Reads members up to the closing brace; members that no field names are crossed. -/
def readMembers (fields : List Field) : Nat → Bool → Slots fields → Reader (Slots fields)
  | 0, _, _, _ => .error (.notJson .endInObject)
  | fuel + 1, first, slots, s => do
    match ← (nextMember first s).mapError Error.notJson with
    | none => pure (slots, s)
    | some s =>
      let (key, s) ← (readText s).mapError Error.notJson
      match Slots.readMember key fields slots with
      | some read =>
        let (slots, s) ← read s
        readMembers fields fuel false slots s
      | none =>
        let s ← (expectColon s).mapError Error.notJson
        let s ← (skipValue s).mapError Error.notJson
        readMembers fields fuel false slots s

/-- Reads the elements of an array into the fields from number `index` on. -/
def readPositions (wanted : String) :
    (fields : List Field) → Nat → Reader (Values fields)
  | [], _, s => .ok ((), s)
  | field :: fields, index, s => do
    match ← (nextElement (index == 0) s).mapError Error.notJson with
    | some s =>
      let (value, s) ← field.read s
      let (values, s) ← readPositions wanted fields (index + 1) s
      pure ((value, values), s)
    | none =>
      match field.ifShort with
      | some value =>
        let (values, s) ← readPositions wanted fields (index + 1) s
        pure ((value, values), s)
      | none => .error (.wrongLength index wanted)

/-- How an error names a record of so many fields. -/
def recordSize (name : String) (count : Nat) : String :=
  s!"struct {name} with {count} element" ++ (if count = 1 then "" else "s")

/-- Reads a record from an object or from an array. -/
def readRecord (name : String) (fields : List Field) : Reader (Values fields) :=
  atValue fun b t =>
    if b = openBracket then do
      let (values, s) ← readPositions (recordSize name fields.length) fields 0 t
      let s ← (endList s).mapError Error.notJson
      pure (values, s)
    else if b = openBrace then do
      let (slots, s) ← readMembers fields (t.length + 1) true (Slots.empty fields) t
      -- a missing field is noticed before what stands at the closing brace
      let values ← Slots.finish fields slots
      let s ← (endObject s).mapError Error.notJson
      pure (values, s)
    else .error (mismatch ("struct " ++ name) (b :: t))

end BlogGateway.Json
