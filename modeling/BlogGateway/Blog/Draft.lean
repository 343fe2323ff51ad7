/-
Drafts of posts, which only their account sees.
-/
import BlogGateway.Blog.Moment

namespace BlogGateway.Blog

open Json

/-- A draft of a post. -/
structure Draft where
  id : String
  account : String
  title : String
  body : String
  jsonMetadata : String
  createdAt : Timestamp
  updatedAt : Timestamp
  deriving DecidableEq, Repr

namespace Draft

/-- A draft as JSON. -/
def value (draft : Draft) : Value := .ofMembers [
  ("id", .string draft.id),
  ("account", .string draft.account),
  ("title", .string draft.title),
  ("body", .string draft.body),
  ("json_metadata", .string draft.jsonMetadata),
  ("created_at", draft.createdAt.value),
  ("updated_at", draft.updatedAt.value)]

/-- The order of listings: the draft that was changed last comes first, and drafts that were
changed at the same time go by id. -/
def before (a b : Draft) : Bool :=
  b.updatedAt.nanoseconds < a.updatedAt.nanoseconds
    || (b.updatedAt.nanoseconds = a.updatedAt.nanoseconds && a.id ≤ b.id)

end Draft

end BlogGateway.Blog
