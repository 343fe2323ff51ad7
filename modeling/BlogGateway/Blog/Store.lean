/-
What the blog remembers.

What is named is kept in maps, so that two stores that hold the same things are equal; what
is listed in the order of its making is kept in lists, oldest first.
-/
import BlogGateway.Blog.Category
import BlogGateway.Blog.Downvote
import BlogGateway.Blog.Draft
import BlogGateway.Blog.Media
import BlogGateway.Blog.Notification
import BlogGateway.Blog.Owned
import BlogGateway.Blog.Profile
import Std.Data.ExtTreeMap
import Std.Data.ExtTreeSet

namespace BlogGateway.Blog

open Std

/-- The limits and names that the blog works with. -/
structure Policy where
  /-- How many accounts an account may follow. -/
  maxFollows : Nat
  /-- The account that may do what is for the administrator. -/
  adminAccount : String
  /-- What the links of pictures begin with, without a slash at the end. -/
  mediaBaseUrl : String
  /-- How many notifications are listed. -/
  notificationsLimit : Nat
  deriving DecidableEq, Repr

/-- The policy of a blog that nothing else is said about. -/
def Policy.default : Policy where
  maxFollows := 5000
  adminAccount := "admin"
  mediaBaseUrl := "https://media.scorum.blog"
  notificationsLimit := 100

/-- That one account follows another. -/
structure Following where
  follower : String
  followed : String
  deriving DecidableEq, Repr

/-- What the blog remembers. -/
structure Store where
  /-- The profiles of accounts. -/
  profiles : ExtTreeMap String Profile := ∅
  /-- The settings of accounts. -/
  settings : ExtTreeMap String ProfileSettings := ∅
  /-- The devices of accounts for push messages. -/
  pushTokens : ExtTreeSet Owned := ∅
  /-- Who follows whom, oldest first. -/
  follows : List Following := []
  /-- The pictures of accounts by id. -/
  media : ExtTreeMap Owned Media := ∅
  /-- The hidden posts of accounts. -/
  blacklist : ExtTreeSet Owned := ∅
  /-- The categories of both domains. -/
  categories : List Category := []
  /-- The drafts of accounts by id. -/
  drafts : ExtTreeMap Owned Draft := ∅
  /-- The notifications of all accounts, oldest first. -/
  notifications : List Notification := []
  /-- The downvotes of all accounts, oldest first. -/
  downvotes : List Downvote := []

namespace Store

/-- A store that remembers nothing. -/
def empty : Store := {}

/-- Whether one account follows another. -/
def isFollowing (store : Store) (follower followed : String) : Bool :=
  store.follows.contains ⟨follower, followed⟩

/-- The category with a label in a domain. -/
def category? (store : Store) (domain : Domain) (label : String) : Option Category :=
  store.categories.find? (Category.isNamed domain label)

end Store

end BlogGateway.Blog
