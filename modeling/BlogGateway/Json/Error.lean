/-
What can be wrong with a JSON text.

A text is refused either because it is not JSON, or because it is and says something other
than what was asked for.  The first kind is a `SyntaxError`, the second names what was found
and what was wanted.  The wording of both is in `message`, and nowhere else.
-/
import BlogGateway.Decimal.Shortest
import BlogGateway.Text.Quoted

namespace BlogGateway.Json

/-- The ways in which a text fails to be JSON. -/
inductive SyntaxError
  /-- The text ends where a value is still needed, or inside a word or a number. -/
  | endInValue
  | endInList
  | endInObject
  | endInString
  | expectedValue
  /-- A word that starts like `true`, `false` or `null` goes on differently. -/
  | expectedWord
  | expectedColon
  | expectedCommaOrBracket
  | expectedCommaOrBrace
  /-- A comma with no element or member after it. -/
  | trailingComma
  /-- Something follows where the value, or the container, should have ended. -/
  | trailingCharacters
  | keyNotString
  | invalidNumber
  | numberOutOfRange
  | invalidEscape
  /-- A surrogate escape that is not part of a pair. -/
  | loneSurrogate
  /-- A leading surrogate escape that no escape follows. -/
  | unpairedSurrogate
  | controlCharacter
  | invalidUtf8
  /-- Values nested more than the limit for values that are kept as trees. -/
  | tooDeep
  deriving DecidableEq, Repr

/-- The text of a syntax error. -/
def SyntaxError.message : SyntaxError → String
  | .endInValue => "EOF while parsing a value"
  | .endInList => "EOF while parsing a list"
  | .endInObject => "EOF while parsing an object"
  | .endInString => "EOF while parsing a string"
  | .expectedValue => "expected value"
  | .expectedWord => "expected ident"
  | .expectedColon => "expected `:`"
  | .expectedCommaOrBracket => "expected `,` or `]`"
  | .expectedCommaOrBrace => "expected `,` or `\x7d`"
  | .trailingComma => "trailing comma"
  | .trailingCharacters => "trailing characters"
  | .keyNotString => "key must be a string"
  | .invalidNumber => "invalid number"
  | .numberOutOfRange => "number out of range"
  | .invalidEscape => "invalid escape"
  | .loneSurrogate => "lone leading surrogate in hex escape"
  | .unpairedSurrogate => "unexpected end of hex escape"
  | .controlCharacter => "control character (\\u0000-\\u001F) found while parsing a string"
  | .invalidUtf8 => "invalid unicode code point"
  | .tooDeep => "recursion limit exceeded"

/-- A JSON number: a whole number that fits 64 bits, or else a float. -/
inductive Number
  | whole (value : Int)
  | float (value : Decimal.Binary64)
  deriving DecidableEq, Repr

/-- What stood where another kind of value was wanted. -/
inductive Found
  | null
  | boolean (value : Bool)
  | number (value : Number)
  | string (value : String)
  | list
  | object
  deriving DecidableEq, Repr

/-- How a found value is named. -/
def Found.describe : Found → String
  | .null => "null"
  | .boolean true => "boolean `true`"
  | .boolean false => "boolean `false`"
  | .number (.whole value) => s!"integer `{value}`"
  | .number (.float value) => s!"floating point `{value.text}`"
  | .string value => s!"string {Text.quoted value}"
  | .list => "sequence"
  | .object => "map"

/-- Why a text was not accepted. -/
inductive Error
  | notJson (cause : SyntaxError)
  /-- A value of the wrong kind. -/
  | wrongType (found : Found) (wanted : String)
  /-- A value of the right kind outside its range. -/
  | wrongValue (found : Found) (wanted : String)
  /-- A list with the wrong number of elements. -/
  | wrongLength (length : Nat) (wanted : String)
  | duplicateField (name : String)
  | missingField (name : String)
  /-- A rule of the value that was being read. -/
  | rule (text : String)
  deriving DecidableEq, Repr

/-- The text of an error. -/
def Error.message : Error → String
  | .notJson cause => cause.message
  | .wrongType found wanted => s!"invalid type: {found.describe}, expected {wanted}"
  | .wrongValue found wanted => s!"invalid value: {found.describe}, expected {wanted}"
  | .wrongLength length wanted => s!"invalid length {length}, expected {wanted}"
  | .duplicateField name => s!"duplicate field `{name}`"
  | .missingField name => s!"missing field `{name}`"
  | .rule text => text

instance : Coe SyntaxError Error := ⟨.notJson⟩

end BlogGateway.Json
