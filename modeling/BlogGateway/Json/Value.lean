/-
JSON values as trees.

Results are built as trees and written compactly, with the members of an object in
ascending order of their names.  Reading keeps the last of two members of one name, and
stops at a fixed depth: unlike a scan, a tree has to be held.
-/
import BlogGateway.Json.Reader

namespace BlogGateway.Json

open Ascii

/-- A JSON value. -/
inductive Value
  | null
  | boolean (value : Bool)
  | number (value : Number)
  | string (value : String)
  | list (elements : List Value)
  | object (members : List (String × Value))
  deriving Repr, Inhabited

namespace Value

/-- A whole number. -/
def ofNat (n : Nat) : Value := .number (.whole n)

/-- Puts a member in its place, over one of the same name. -/
def insertMember {α : Type} (name : String) (value : α) :
    List (String × α) → List (String × α)
  | [] => [(name, value)]
  | (other, old) :: members =>
    if name < other then (name, value) :: (other, old) :: members
    else if name = other then (name, value) :: members
    else (other, old) :: insertMember name value members

/-- An object from members in any order. -/
def ofMembers (members : List (String × Value)) : Value :=
  .object (members.foldl (fun sorted (name, value) => insertMember name value sorted) [])

/-- A list of texts. -/
def ofTexts (texts : List String) : Value := .list (texts.map .string)

end Value

/-! ### Writing -/

/-- A number as JSON. -/
def writeNumber : Number → Bytes
  | .whole value => Bytes.ofText (toString value)
  | .float value => Bytes.ofText value.text

/-- `true` or `false`. -/
def writeBool (value : Bool) : Bytes := Bytes.ofText (if value then "true" else "false")

mutual

/-- A value as compact JSON. -/
def Value.write : Value → Bytes
  | .null => Bytes.ofText "null"
  | .boolean value => writeBool value
  | .number value => writeNumber value
  | .string value => writeText value
  | .list elements => openBracket :: Value.writeElements true elements
  | .object members => openBrace :: Value.writeMembers true members

/-- The elements of a list with its closing bracket. -/
def Value.writeElements (first : Bool) : List Value → Bytes
  | [] => [closeBracket]
  | value :: rest =>
    (if first then [] else [comma]) ++ value.write ++ Value.writeElements false rest

/-- The members of an object with its closing brace. -/
def Value.writeMembers (first : Bool) : List (String × Value) → Bytes
  | [] => [closeBrace]
  | (name, value) :: rest =>
    (if first then [] else [comma]) ++ writeText name ++ colon :: value.write
      ++ Value.writeMembers false rest

end

/-! ### Reading -/

/-- Reads members of a tree up to the closing brace, into those read before. -/
def readTreeMembers (read : Reader Value) :
    Nat → Bool → List (String × Value) → Reader (List (String × Value))
  | 0, _, _, _ => .error (.notJson .endInObject)
  | fuel + 1, first, members, s => do
    match ← (nextMember first s).mapError Error.notJson with
    | none => pure (members, s)
    | some s =>
      let (key, s) ← (readText s).mapError Error.notJson
      let s ← (expectColon s).mapError Error.notJson
      let (value, s) ← read s
      readTreeMembers read fuel false (Value.insertMember key value members) s

/-- Reads a value as a tree.  A container takes one from `depth`, and may not take the last. -/
def readValue (depth : Nat) : Reader Value := atValue fun b t =>
  if b = lowerN then
    ((expectWord [0x75, 0x6C, 0x6C] t).map fun rest => (.null, rest)).mapError Error.notJson
  else if b = lowerT || b = lowerF then
    (readBool (b :: t)).map fun (value, rest) => (.boolean value, rest)
  else if b = minus || isDigit b then
    (readAnyNumber "a number" (b :: t)).map fun (value, rest) => (.number value, rest)
  else if b = quote then
    ((readText t).map fun (value, rest) => (.string value, rest)).mapError Error.notJson
  else if b = openBracket then
    match depth with
    | 0 | 1 => .error (.notJson .tooDeep)
    | depth + 2 => do
      let (values, s) ← readElements (readValue (depth + 1)) (t.length + 1) true t
      let s ← (endList s).mapError Error.notJson
      pure (.list values, s)
  else if b = openBrace then
    match depth with
    | 0 | 1 => .error (.notJson .tooDeep)
    | depth + 2 => do
      let (members, s) ← readTreeMembers (readValue (depth + 1)) (t.length + 1) true [] t
      let s ← (endObject s).mapError Error.notJson
      pure (.object members, s)
  else .error (.notJson .expectedValue)

/-- How deep containers may nest in a text that is read as a whole. -/
def depthLimit : Nat := 128

end BlogGateway.Json
