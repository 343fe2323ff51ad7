/-
Notifications: what an account is told about others.
-/
import BlogGateway.Blog.Moment

namespace BlogGateway.Blog

open Json

/-- What a notification tells. -/
inductive Notice
  /-- An account has started to follow the recipient. -/
  | startedFollow (follower : String)
  deriving DecidableEq, Repr

namespace Notice

/-- The name of what is told. -/
def kind : Notice → String
  | .startedFollow _ => "started_follow"

/-- The particulars. -/
def details : Notice → Value
  | .startedFollow follower => .ofMembers [("account", .string follower)]

end Notice

/-- A notification. -/
structure Notification where
  id : Uuid
  /-- Who is told. -/
  account : String
  notice : Notice
  isRead : Bool
  isSeen : Bool
  timestamp : Timestamp
  deriving DecidableEq, Repr

namespace Notification

/-- A notification as JSON. -/
def value (notification : Notification) : Value := .ofMembers [
  ("id", .string notification.id.text),
  ("account", .string notification.account),
  ("type", .string notification.notice.kind),
  ("meta", notification.notice.details),
  ("is_read", .boolean notification.isRead),
  ("is_seen", .boolean notification.isSeen),
  ("timestamp", notification.timestamp.value)]

/-- Whether a notification tells an account that another has started to follow it. -/
def isFollowOf (follower followed : String) (notification : Notification) : Bool :=
  notification.account = followed && notification.notice = .startedFollow follower

end Notification

end BlogGateway.Blog
