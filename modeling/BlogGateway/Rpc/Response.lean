/-
Responses to remote calls.

A response carries the id of its request and either a result or an error, or neither when
the call succeeded and has nothing to say.  Results are JSON values when they leave their
handler, so that there is no result that could not be written.
-/
import BlogGateway.Rpc.Error

namespace BlogGateway.Rpc

open Json

/-- What a handler gives back: maybe a result, or an error. -/
abbrev Answer := Except Error (Option Value)

/-- A response. -/
structure Response where
  id : UInt64
  result : Option Value
  error : Option Error

namespace Response

/-- The response that reports an error. -/
def ofError (id : UInt64) (error : Error) : Response := ⟨id, none, some error⟩

/-- The response that carries the outcome of a handler. -/
def ofAnswer (id : UInt64) : Answer → Response
  | .ok result => ⟨id, result, none⟩
  | .error error => ofError id error

/-- Whether there is nothing to say but that the call succeeded. -/
def isEmpty (response : Response) : Bool := response.result.isNone && response.error.isNone

/-- A response as JSON; what is not there is left out. -/
def write (response : Response) : Bytes :=
  let id := writeText "id" ++ Ascii.colon :: Bytes.ofText (toString response.id.toNat)
  let result := match response.result with
    | some value => Ascii.comma :: writeText "result" ++ Ascii.colon :: value.write
    | none => []
  let error := match response.error with
    | some error => Ascii.comma :: writeText "error" ++ Ascii.colon :: error.write
    | none => []
  Ascii.openBrace :: id ++ result ++ error ++ [Ascii.closeBrace]

end Response

end BlogGateway.Rpc
