/-
Errors of remote calls.

An error that a client sees is a code and a text.  The codes are frozen, since clients act on
them; the texts are for people.
-/
import BlogGateway.Json.Record
import BlogGateway.Json.Value

namespace BlogGateway.Rpc

open Json

/-- The kinds of error that have a code of their own. -/
inductive ErrorCode
  | internalError
  | routeNotRegistered
  | invalidRequest
  | invalidParameter
  | profileNotFound
  | followsLimitReached
  | profileAlreadyFollowed
  | invalidMedia
  | invalidMediaType
  | mediaNotFound
  | mediaAlreadyExists
  | accessDenied
  | categoryAlreadyExists
  | imageTooSmall
  | categoryNotFound
  | draftNotFound
  | plagiarismDetailsNotFound
  | downvoteNotFound
  | blacklistEntryNotFound
  deriving DecidableEq, Repr

namespace ErrorCode

/-- All codes, in the order of their numbers. -/
def all : List ErrorCode := [
  .internalError, .routeNotRegistered, .invalidRequest, .invalidParameter, .profileNotFound,
  .followsLimitReached, .profileAlreadyFollowed, .invalidMedia, .invalidMediaType,
  .mediaNotFound, .mediaAlreadyExists, .accessDenied, .categoryAlreadyExists, .imageTooSmall,
  .categoryNotFound, .draftNotFound, .plagiarismDetailsNotFound, .downvoteNotFound,
  .blacklistEntryNotFound]

/-- The number of a code, which clients act on. -/
def number : ErrorCode → Int
  | .internalError => 1
  | .routeNotRegistered => 2
  | .invalidRequest => 3
  | .invalidParameter => 4
  | .profileNotFound => 5
  | .followsLimitReached => 6
  | .profileAlreadyFollowed => 7
  | .invalidMedia => 8
  | .invalidMediaType => 9
  | .mediaNotFound => 10
  | .mediaAlreadyExists => 11
  | .accessDenied => 12
  | .categoryAlreadyExists => 13
  | .imageTooSmall => 14
  | .categoryNotFound => 15
  | .draftNotFound => 16
  | .plagiarismDetailsNotFound => 17
  | .downvoteNotFound => 18
  | .blacklistEntryNotFound => 19

/-- The name of a code in the documents of the interface. -/
def name : ErrorCode → String
  | .internalError => "InternalError"
  | .routeNotRegistered => "RouteNotRegistered"
  | .invalidRequest => "InvalidRequest"
  | .invalidParameter => "InvalidParameter"
  | .profileNotFound => "ProfileNotFound"
  | .followsLimitReached => "FollowsLimitReached"
  | .profileAlreadyFollowed => "ProfileAlreadyFollowed"
  | .invalidMedia => "InvalidMedia"
  | .invalidMediaType => "InvalidMediaType"
  | .mediaNotFound => "MediaNotFound"
  | .mediaAlreadyExists => "MediaAlreadyExists"
  | .accessDenied => "AccessDenied"
  | .categoryAlreadyExists => "CategoryAlreadyExists"
  | .imageTooSmall => "ImageTooSmall"
  | .categoryNotFound => "CategoryNotFound"
  | .draftNotFound => "DraftNotFound"
  | .plagiarismDetailsNotFound => "PlagiarismDetailsNotFound"
  | .downvoteNotFound => "DownvoteNotFound"
  | .blacklistEntryNotFound => "BlacklistEntryNotFound"

end ErrorCode

/-- The error of a call.  The code may be any number of 32 bits, not only one of the list. -/
structure Error where
  code : Int
  message : String
  deriving DecidableEq, Repr

namespace Error

/-- An error with one of the codes. -/
def of (code : ErrorCode) (message : String) : Error := ⟨code.number, message⟩

/-- A mistake of the gateway itself. -/
def internal (message : String) : Error := .of .internalError message

/-- A call that no handler is registered for. -/
def routeNotRegistered (message : String) : Error := .of .routeNotRegistered message

/-- A request that is no call. -/
def invalidRequest (message : String) : Error := .of .invalidRequest message

/-- A call whose arguments cannot be used. -/
def invalidParameter (message : String) : Error := .of .invalidParameter message

/-- A call that the account may not make. -/
def accessDenied (message : String) : Error := .of .accessDenied message

/-- An error as it is shown in reports. -/
def describe (error : Error) : String := s!"{error.code}: {error.message}"

/-- The fields of an error. -/
def fields : List Field := [.required "code" readInt32, .required "message" (readString "a string")]

/-- Reads an error. -/
def read : Reader Error := fun s => do
  let ((code, message, ()), s) ← readRecord "RpcError" fields s
  pure (⟨code, message⟩, s)

/-- An error as JSON. -/
def write (error : Error) : Bytes :=
  Ascii.openBrace :: writeText "code" ++ Ascii.colon :: Bytes.ofText (toString error.code)
    ++ Ascii.comma :: writeText "message" ++ Ascii.colon :: writeText error.message
    ++ [Ascii.closeBrace]

end Error

end BlogGateway.Rpc
