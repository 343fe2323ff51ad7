/-
Operations.

An operation is a pair of a tag and a body.  A tag that names no kind is no mistake: such an
operation is kept with the text of its body, so that it can be written again byte for byte,
but it has no signed form and passes no field rules.
-/
import BlogGateway.Operation.Layout
import BlogGateway.Operation.Signed

namespace BlogGateway

open Json

/-- What an account asks the gateway to do. -/
inductive Operation
  | known (kind : Operation.Kind) (body : Operation.Body kind)
  | unknown (tag : String) (body : Raw)
  deriving DecidableEq

namespace Operation

/-- The kind of an operation, if the gateway knows it. -/
def kind? : Operation → Option Kind
  | .known kind _ => some kind
  | .unknown _ _ => none

/-- The tag by which JSON names the operation. -/
def tag : Operation → String
  | .known kind _ => kind.tag
  | .unknown tag _ => tag

/-- The account that claims to perform the operation. -/
def account? : Operation → Option String
  | .known _ body => some body.account
  | .unknown _ _ => none

/-! ### JSON -/

/-- Why a text is no operation. -/
inductive DecodeError
  /-- The text is not a JSON list. -/
  | malformed (cause : Json.Error)
  /-- The list does not have two elements. -/
  | arity (count : Nat)
  /-- The tag is not a string. -/
  | tag (cause : Json.Error)
  /-- The body does not have the layout of its kind. -/
  | body (kind : Kind) (cause : Json.Error)
  deriving DecidableEq, Repr

/-- The text of a decoding error. -/
def DecodeError.message : DecodeError → String
  | .malformed cause => s!"failed to unmarshal operation object: {cause.message}"
  | .arity count =>
    s!"invalid operation object: expected [type, body], got {count} element(s)"
  | .tag cause => s!"failed to unmarshal operation type: {cause.message}"
  | .body kind cause => s!"failed to unmarshal {kind.tag} operation body: {cause.message}"

/-- The operation that the elements of a list make up. -/
def ofParts (parts : List Raw) : Except DecodeError Operation :=
  match parts with
  | [tag, body] => do
    let tag ← (tag.read (readString "a string")).mapError .tag
    match Kind.ofTag? tag with
    | some kind =>
      ((body.read (readBody kind)).map (Operation.known kind)).mapError (.body kind)
    | none => .ok (.unknown tag body)
  | parts => .error (.arity parts.length)

/-- The operation that a whole text spells. -/
def decode (text : Bytes) : Except DecodeError Operation := do
  let parts ← (readWholeText (readList readRaw) text).mapError .malformed
  ofParts parts

/-- Reads an operation inside a longer text. -/
def read : Reader Operation := fun s => do
  let (parts, s) ← readList readRaw s
  match ofParts parts with
  | .ok operation => pure (operation, s)
  | .error cause => .error (.rule cause.message)

/-- An operation as JSON. -/
def write (operation : Operation) : Bytes :=
  let body := match operation with
    | .known kind body => writeBody kind body
    | .unknown _ body => body.bytes
  Ascii.openBracket :: writeText operation.tag ++ Ascii.comma :: body ++ [Ascii.closeBracket]

/-! ### Signed bytes -/

/-- The tag of an operation that has no signed form. -/
structure Unencodable where
  tag : String
  deriving DecidableEq, Repr

/-- The text that reports an operation without a signed form. -/
def Unencodable.message (cause : Unencodable) : String :=
  s!"{cause.tag} operation has no canonical encoding"

/-- The signed form: the code of the kind, then the fields of the body. -/
def encode : Operation → Except Unencodable Bytes
  | .known kind body => .ok (Wire.varint kind.code ++ encodeBody kind body)
  | .unknown tag _ => .error ⟨tag⟩

end Operation

end BlogGateway
