/-
What can be read from the blog.

Reading changes nothing.  Long listings come in pages: so many entries are passed over, and
at most so many are given, of which there may not be more than a thousand.
-/
import BlogGateway.Blog.Change

namespace BlogGateway.Blog

/-- The largest page. -/
def pageLimit : UInt32 := 1000

/-- A page of a listing. -/
def page {α : Type} (items : List α) (start limit : UInt32) : Except Rpc.Error (List α) :=
  if pageLimit < limit then .error (.invalidParameter "invalid limit")
  else .ok ((items.drop start.toNat).take limit.toNat)

/-- The first occurrence of each account that has not been seen, in the order given. -/
def uniqueBehind (seen : Std.ExtTreeSet String) : List String → List String
  | [] => []
  | account :: rest =>
    if account ∈ seen then uniqueBehind seen rest
    else account :: uniqueBehind (seen.insert account) rest

/-- The first occurrence of each account, in the order given. -/
def unique (accounts : List String) : List String := uniqueBehind ∅ accounts

namespace Store

variable (store : Store)

/-! ### Profiles -/

/-- A number as it is shown, which is at most the largest of 32 bits. -/
def count (n : Nat) : UInt32 := UInt32.ofNat (min n 0xFFFFFFFF)

/-- The profile of an account with the numbers of follows in both directions. -/
def profile (account : String) : Except Rpc.Error ExtendedProfile :=
  match store.profiles[account]? with
  | none => .error (notFound account)
  | some profile => .ok
    { profile
      followersCount := count (store.follows.countP (·.followed = account))
      followingCount := count (store.follows.countP (·.follower = account)) }

/-- The settings of an account. -/
def profileSettings (account : String) : Except Rpc.Error ProfileSettings :=
  match store.settings[account]? with
  | none => .error (notFound account)
  | some settings => .ok settings

/-- The profiles that some of the accounts have, each once. -/
def profilesOf (accounts : List String) : List Profile :=
  (unique accounts).filterMap fun account => store.profiles[account]?

/-- Whether the administrator vouches for an account. -/
def isTrusted (account : String) : Bool :=
  match store.profiles[account]? with
  | some profile => profile.isTrusted
  | none => false

/-- All accounts that the administrator vouches for, by name. -/
def allTrusted : List Profile := store.profiles.values.filter Profile.isTrusted

/-- A page of the accounts that the administrator vouches for. -/
def trusted (start limit : UInt32) : Except Rpc.Error (List Profile) :=
  page store.allTrusted start limit

/-! ### Follows -/

/-- The profiles of all who follow an account, the newest follow first. -/
def allFollowers (account : String) : List Profile :=
  (store.follows.reverse.filter (·.followed = account)).filterMap fun following =>
    store.profiles[following.follower]?

/-- The profiles of all whom an account follows, the newest follow first. -/
def allFollowing (account : String) : List Profile :=
  (store.follows.reverse.filter (·.follower = account)).filterMap fun following =>
    store.profiles[following.followed]?

/-- A page of those who follow an account. -/
def followers (account : String) (start limit : UInt32) : Except Rpc.Error (List Profile) :=
  page (store.allFollowers account) start limit

/-- A page of those whom an account follows. -/
def following (account : String) (start limit : UInt32) : Except Rpc.Error (List Profile) :=
  page (store.allFollowing account) start limit

/-- The profiles of the candidates who follow an account, each once. -/
def filterFollowers (account : String) (candidates : List String) : List Profile :=
  ((unique candidates).filter fun candidate => store.isFollowing candidate account).filterMap
    fun candidate => store.profiles[candidate]?

/-- The profiles of the candidates whom an account follows, each once. -/
def filterFollowing (account : String) (candidates : List String) : List Profile :=
  ((unique candidates).filter fun candidate => store.isFollowing account candidate).filterMap
    fun candidate => store.profiles[candidate]?

/-! ### Pictures -/

/-- The picture of an account with an id, in any case. -/
def mediaOf (account id : String) : Except Rpc.Error Media :=
  match store.media[(⟨account, Text.lowercase id⟩ : Owned)]? with
  | some media => .ok media
  | none => .error (.of .mediaNotFound s!"media {id} not found")

/-! ### Hidden posts -/

/-- Whether a post is hidden. -/
def isBlacklisted (account permlink : String) : Bool :=
  store.blacklist.contains ⟨account, permlink⟩

/-- All hidden posts, by author and name. -/
def allBlacklisted : List Owned := store.blacklist.toList

/-- A page of the hidden posts. -/
def blacklisted (start limit : UInt32) : Except Rpc.Error (List Owned) :=
  page store.allBlacklisted start limit

/-! ### Categories -/

/-- The categories of a domain in their order. -/
def categoriesIn (domain : Domain) : List Category :=
  store.categories.filter (·.domain = domain)

/-- The categories of the domain of a name. -/
def categoriesOf (domain : String) : Except Rpc.Error (List Category) :=
  match Domain.ofText? domain with
  | none => .error noDomain
  | some domain => .ok (store.categoriesIn domain)

/-- One category of the domain of a name. -/
def categoryOf (domain label : String) : Except Rpc.Error Category :=
  match Domain.ofText? domain with
  | none => .error noDomain
  | some domain => match store.category? domain label with
    | none => .error noCategory
    | some category => .ok category

/-! ### Drafts -/

/-- A draft of an account. -/
def draft (account id : String) : Except Rpc.Error Draft :=
  if id = "" then .error (.invalidParameter "invalid id")
  else match store.drafts[(⟨account, id⟩ : Owned)]? with
    | none => .error noDraft
    | some draft => .ok draft

/-- All drafts of an account, the one that was changed last first. -/
def draftsOf (account : String) : List Draft :=
  (store.drafts.values.filter (·.account = account)).mergeSort Draft.before

/-! ### Notifications -/

/-- The newest notifications of an account, newest first. -/
def notificationsOf (policy : Policy) (account : String) : List Notification :=
  (store.notifications.reverse.filter (·.account = account)).take policy.notificationsLimit

/-! ### Downvotes -/

/-- The downvotes of a post. -/
def downvotesOn (author permlink : String) : List Downvote :=
  store.downvotes.filter (Downvote.isOn author permlink)

end Store

end BlogGateway.Blog
