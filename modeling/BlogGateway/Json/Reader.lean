/-
Reading typed values out of a JSON text.

A reader takes the bytes that are left and returns a value with what follows it.  Errors are
those of the first byte that cannot be accepted, so a reader decodes as it goes and never
looks ahead for a mistake further on.
-/
import BlogGateway.Json.Number
import BlogGateway.Json.Text

namespace BlogGateway.Json

open Ascii

/-- A reader of values of type `α`. -/
abbrev Reader (α : Type) := Bytes → Except Error (α × Bytes)

/-- The text of one JSON value, kept as it arrived, without the white space around it. -/
structure Raw where
  text : String
  deriving DecidableEq, Repr, Inhabited

/-- The bytes of a raw value. -/
def Raw.bytes (raw : Raw) : Bytes := Bytes.ofText raw.text

/-- Expects the rest of a word. -/
def expectWord : Bytes → Bytes → Except SyntaxError Bytes
  | [], s => .ok s
  | _ :: _, [] => .error .endInValue
  | w :: ws, b :: s => if b = w then expectWord ws s else .error .expectedWord

/-- The error of finding, from here on, something other than what was wanted. -/
def mismatch (wanted : String) (s : Bytes) : Error :=
  let found : Except SyntaxError Found :=
    match s with
    | [] => .error .expectedValue
    | b :: t =>
      if b = lowerN then (expectWord [0x75, 0x6C, 0x6C] t).map fun _ => .null
      else if b = lowerT then (expectWord [0x72, 0x75, 0x65] t).map fun _ => .boolean true
      else if b = lowerF then (expectWord [0x61, 0x6C, 0x73, 0x65] t).map fun _ => .boolean false
      else if b = minus then (readNumber true t).map fun r => .number r.1
      else if isDigit b then (readNumber false s).map fun r => .number r.1
      else if b = quote then (readText t).map fun r => .string r.1
      else if b = openBracket then .ok .list
      else if b = openBrace then .ok .object
      else .error .expectedValue
  match found with
  | .ok found => .wrongType found wanted
  | .error cause => .notJson cause

/-- Reads a value whose first byte decides how; the byte has not been taken yet. -/
def atValue {α : Type} (read : UInt8 → Bytes → Except Error (α × Bytes)) : Reader α := fun s =>
  match skipSpace s with
  | [] => .error (.notJson .endInValue)
  | b :: t => read b t

/-- Reads a string. -/
def readString (wanted : String) : Reader String := atValue fun b t =>
  if b = quote then (readText t).mapError .notJson else .error (mismatch wanted (b :: t))

/-- Reads `true` or `false`. -/
def readBool : Reader Bool := atValue fun b t =>
  if b = lowerT then
    ((expectWord [0x72, 0x75, 0x65] t).map fun rest => (true, rest)).mapError .notJson
  else if b = lowerF then
    ((expectWord [0x61, 0x6C, 0x73, 0x65] t).map fun rest => (false, rest)).mapError .notJson
  else .error (mismatch "a boolean" (b :: t))

/-- Reads a number of any kind. -/
def readAnyNumber (wanted : String) : Reader Number := atValue fun b t =>
  if b = minus then (readNumber true t).mapError .notJson
  else if isDigit b then (readNumber false (b :: t)).mapError .notJson
  else .error (mismatch wanted (b :: t))

/-- Reads a whole number from `low` to `high`; `wanted` names the range. -/
def readWhole (low high : Int) (wanted : String) : Reader Int := fun s => do
  let (number, s) ← readAnyNumber wanted s
  match number with
  | .whole value =>
    if low ≤ value && value ≤ high then .ok (value, s)
    else .error (.wrongValue (.number number) wanted)
  | .float _ => .error (.wrongType (.number number) wanted)

/-- Reads a whole number of 16 bits. -/
def readUInt16 : Reader UInt16 := fun s => do
  let (value, s) ← readWhole 0 0xFFFF "u16" s
  pure (value.toNat.toUInt16, s)

/-- Reads a whole number of 32 bits. -/
def readUInt32 : Reader UInt32 := fun s => do
  let (value, s) ← readWhole 0 0xFFFFFFFF "u32" s
  pure (value.toNat.toUInt32, s)

/-- Reads a whole number of 64 bits. -/
def readUInt64 : Reader UInt64 := fun s => do
  let (value, s) ← readWhole 0 0xFFFFFFFFFFFFFFFF "u64" s
  pure (value.toNat.toUInt64, s)

/-- Reads a signed number of 32 bits. -/
def readInt32 : Reader Int := readWhole (-0x80000000) 0x7FFFFFFF "i32"

/-- Reads a signed number of 64 bits. -/
def readInt64 : Reader Int := readWhole (-0x8000000000000000) 0x7FFFFFFFFFFFFFFF "i64"

/-- Reads any value as the text that spells it. -/
def readRaw : Reader Raw := fun s => do
  let start := skipSpace s
  let rest ← (skipValue start).mapError .notJson
  match Bytes.toText? (start.take (start.length - rest.length)) with
  | some text => .ok (⟨text⟩, rest)
  | none => .error (.notJson .invalidUtf8)

/-- Reads `null` as nothing, and anything else with the given reader. -/
def readOption {α : Type} (read : Reader α) : Reader (Option α) := fun s =>
  match skipSpace s with
  | b :: t =>
    if b = lowerN then
      ((expectWord [0x75, 0x6C, 0x6C] t).map fun rest => (none, rest)).mapError .notJson
    else (read (b :: t)).map fun (value, rest) => (some value, rest)
  | [] => (read []).map fun (value, rest) => (some value, rest)

/-! ### Lists -/

/-- Goes to the next element of a list: `none` at the closing bracket, which is left in
place, and otherwise the bytes from the element on. -/
def nextElement (first : Bool) (s : Bytes) : Except SyntaxError (Option Bytes) :=
  match skipSpace s with
  | [] => .error .endInList
  | b :: t =>
    if b = closeBracket then .ok none
    else if b = comma && !first then
      match skipSpace t with
      | [] => .error .endInValue
      | c :: u => if c = closeBracket then .error .trailingComma else .ok (some (c :: u))
    else if first then .ok (some (b :: t))
    else .error .expectedCommaOrBracket

/-- Takes the closing bracket of a list that has all it needs. -/
def endList (s : Bytes) : Except SyntaxError Bytes :=
  match skipSpace s with
  | [] => .error .endInList
  | b :: t =>
    if b = closeBracket then .ok t
    else if b = comma then
      match skipSpace t with
      | c :: _ => if c = closeBracket then .error .trailingComma else .error .trailingCharacters
      | [] => .error .trailingCharacters
    else .error .trailingCharacters

/-- Reads elements up to the closing bracket.  Each takes at least one byte, so as much fuel
as there are bytes is enough. -/
def readElements {α : Type} (read : Reader α) : Nat → Bool → Reader (List α)
  | 0, _, _ => .error (.notJson .endInList)
  | fuel + 1, first, s => do
    match ← (nextElement first s).mapError Error.notJson with
    | none => pure ([], s)
    | some s =>
      let (value, s) ← read s
      let (values, s) ← readElements read fuel false s
      pure (value :: values, s)

/-- Reads a list of values. -/
def readList {α : Type} (read : Reader α) : Reader (List α) := atValue fun b t =>
  if b = openBracket then do
    let (values, s) ← readElements read (t.length + 1) true t
    let s ← (endList s).mapError Error.notJson
    pure (values, s)
  else .error (mismatch "a sequence" (b :: t))

/-- Reads a list of exactly two values. -/
def readPair {α β : Type} (left : Reader α) (right : Reader β) : Reader (α × β) :=
  atValue fun b t =>
    if b = openBracket then do
      let some s ← (nextElement true t).mapError Error.notJson
        | .error (.wrongLength 0 "a tuple of size 2")
      let (a, s) ← left s
      let some s ← (nextElement false s).mapError Error.notJson
        | .error (.wrongLength 1 "a tuple of size 2")
      let (b, s) ← right s
      let s ← (endList s).mapError Error.notJson
      pure ((a, b), s)
    else .error (mismatch "a tuple of size 2" (b :: t))

/-! ### Objects -/

/-- Goes to the next member of an object: `none` at the closing brace, which is left in
place, and otherwise the bytes after the opening quote of the key. -/
def nextMember (first : Bool) (s : Bytes) : Except SyntaxError (Option Bytes) :=
  match skipSpace s with
  | [] => .error .endInObject
  | b :: t =>
    if b = closeBrace then .ok none
    else if b = comma && !first then
      match skipSpace t with
      | [] => .error .endInValue
      | c :: u =>
        if c = quote then .ok (some u)
        else if c = closeBrace then .error .trailingComma
        else .error .keyNotString
    else if first then if b = quote then .ok (some t) else .error .keyNotString
    else .error .expectedCommaOrBrace

/-- Takes the colon between a key and its value. -/
def expectColon (s : Bytes) : Except SyntaxError Bytes :=
  match skipSpace s with
  | [] => .error .endInObject
  | b :: t => if b = colon then .ok t else .error .expectedColon

/-- Takes the closing brace of an object. -/
def endObject (s : Bytes) : Except SyntaxError Bytes :=
  match skipSpace s with
  | [] => .error .endInObject
  | b :: t =>
    if b = closeBrace then .ok t
    else if b = comma then .error .trailingComma
    else .error .trailingCharacters

/-! ### Whole texts -/

/-- Reads a text that holds one value and nothing else. -/
def readWholeText {α : Type} (read : Reader α) (s : Bytes) : Except Error α := do
  let (value, rest) ← read s
  match skipSpace rest with
  | [] => pure value
  | _ => .error (.notJson .trailingCharacters)

/-- Reads a raw value as a value of another type. -/
def Raw.read {α : Type} (raw : Raw) (reader : Reader α) : Except Error α :=
  readWholeText reader raw.bytes

end BlogGateway.Json
