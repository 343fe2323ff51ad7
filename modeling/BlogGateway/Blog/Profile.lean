/-
Profiles.

A profile is what everybody sees of an account; its settings are for the account alone.
-/
import BlogGateway.Blog.Moment

namespace BlogGateway.Blog

open Json

/-- What everybody sees of an account. -/
structure Profile where
  account : String
  displayName : String
  location : String
  bio : String
  /-- The link of one of the account's pictures, or nothing. -/
  avatarUrl : String
  /-- The link of one of the account's pictures, or nothing. -/
  coverUrl : String
  /-- Whether the administrator vouches for the account. -/
  isTrusted : Bool
  createdAt : Timestamp
  deriving DecidableEq, Repr

namespace Profile

/-- The profile of an account that has said nothing about itself. -/
def fresh (account : String) (createdAt : Timestamp) : Profile where
  account := account
  displayName := account
  location := ""
  bio := ""
  avatarUrl := ""
  coverUrl := ""
  isTrusted := false
  createdAt := createdAt

/-- The members of a profile in JSON. -/
def members (profile : Profile) : List (String × Value) := [
  ("account", .string profile.account),
  ("display_name", .string profile.displayName),
  ("location", .string profile.location),
  ("bio", .string profile.bio),
  ("avatar_url", .string profile.avatarUrl),
  ("cover_url", .string profile.coverUrl),
  ("is_trusted", .boolean profile.isTrusted),
  ("created_at", profile.createdAt.value)]

/-- A profile as JSON. -/
def value (profile : Profile) : Value := .ofMembers profile.members

end Profile

/-- A profile with the sizes of its audience. -/
structure ExtendedProfile where
  profile : Profile
  followersCount : UInt32
  followingCount : UInt32
  deriving DecidableEq, Repr

/-- An extended profile as JSON: the members of the profile and the two counts. -/
def ExtendedProfile.value (extended : ExtendedProfile) : Value :=
  .ofMembers (extended.profile.members ++ [
    ("followers_count", .ofNat extended.followersCount.toNat),
    ("following_count", .ofNat extended.followingCount.toNat)])

/-- What only the account sees. -/
structure ProfileSettings where
  account : String
  enableEmailUnseenNotifications : Bool
  deriving DecidableEq, Repr

/-- Settings as JSON. -/
def ProfileSettings.value (settings : ProfileSettings) : Value := .ofMembers [
  ("account", .string settings.account),
  ("enable_email_unseen_notifications", .boolean settings.enableEmailUnseenNotifications)]

end BlogGateway.Blog
