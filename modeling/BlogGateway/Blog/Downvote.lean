/-
Downvotes of posts, each with a reason.
-/
import BlogGateway.Json.Value

namespace BlogGateway.Blog

open Json

/-- Why a post is downvoted. -/
inductive DownvoteReason
  | spam
  | plagiarism
  | hateOrTrolling
  | lowQualityContent
  | disagreeOnRewards
  deriving DecidableEq, Repr

namespace DownvoteReason

/-- The name of a reason. -/
def text : DownvoteReason → String
  | .spam => "spam"
  | .plagiarism => "plagiarism"
  | .hateOrTrolling => "hate_or_trolling"
  | .lowQualityContent => "low_quality_content"
  | .disagreeOnRewards => "disagree_on_rewards"

/-- All reasons. -/
def all : List DownvoteReason :=
  [.spam, .plagiarism, .hateOrTrolling, .lowQualityContent, .disagreeOnRewards]

/-- The reason of a name. -/
def ofText? (text : String) : Option DownvoteReason := all.find? fun reason => reason.text = text

/-- A reason as JSON. -/
def value (reason : DownvoteReason) : Value := .string reason.text

end DownvoteReason

/-- A downvote that an account has cast on a post of an author. -/
structure Downvote where
  account : String
  author : String
  permlink : String
  reason : DownvoteReason
  comment : String
  deriving DecidableEq, Repr

namespace Downvote

/-- A downvote as JSON. -/
def value (downvote : Downvote) : Value := .ofMembers [
  ("account", .string downvote.account),
  ("author", .string downvote.author),
  ("permlink", .string downvote.permlink),
  ("reason", downvote.reason.value),
  ("comment", .string downvote.comment)]

/-- Whether a downvote is on the given post. -/
def isOn (author permlink : String) (downvote : Downvote) : Bool :=
  downvote.author = author && downvote.permlink = permlink

/-- Whether a downvote was cast by an account on the given post. -/
def isCast (account author permlink : String) (downvote : Downvote) : Bool :=
  downvote.account = account && downvote.isOn author permlink

/-- Puts a downvote in the place of the account's earlier one on the post, or at the end. -/
def put (downvote : Downvote) : List Downvote → List Downvote
  | [] => [downvote]
  | other :: rest =>
    if other.isCast downvote.account downvote.author downvote.permlink then downvote :: rest
    else other :: put downvote rest

end Downvote

end BlogGateway.Blog
