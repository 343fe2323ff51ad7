/-
Pictures that accounts store.

A picture has one of three content types, of which two may be shown on a profile.
-/
import BlogGateway.Blog.Moment

namespace BlogGateway.Blog

open Json

/-- The content type of a picture. -/
inductive MediaType
  | jpeg
  | png
  | gif
  deriving DecidableEq, Repr

namespace MediaType

/-- The name of a content type. -/
def text : MediaType → String
  | .jpeg => "image/jpeg"
  | .png => "image/png"
  | .gif => "image/gif"

/-- All content types. -/
def all : List MediaType := [.jpeg, .png, .gif]

/-- The content type of a name. -/
def ofText? (text : String) : Option MediaType := all.find? fun type => type.text = text

/-- Whether a picture of this type may be shown on a profile. -/
def suitsProfile : MediaType → Bool
  | .jpeg | .png => true
  | .gif => false

end MediaType

/-- A stored picture. -/
structure Media where
  /-- The id in lower case, which differs from the account's other ids. -/
  id : String
  account : String
  url : String
  contentType : MediaType
  /-- How many bytes the picture has. -/
  size : Nat
  createdAt : Timestamp
  deriving DecidableEq, Repr

/-- A picture as JSON. -/
def Media.value (media : Media) : Value := .ofMembers [
  ("id", .string media.id),
  ("account", .string media.account),
  ("url", .string media.url),
  ("content_type", .string media.contentType.text),
  ("size", .ofNat media.size),
  ("created_at", media.createdAt.value)]

end BlogGateway.Blog
