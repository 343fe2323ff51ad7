/-
The calls that read from the blog.

Anyone may make a public read.  A signed read is about the account that signed it: the
account is not an argument but the one whose key made the signature.
-/
import BlogGateway.Blog.View
import BlogGateway.Rpc.SignedRead

namespace BlogGateway.Gateway

open Blog Json Rpc

/-- The handler that answers a call with what it reads from the store. -/
def reading (read : Call → Store → Except Rpc.Error Value) : Handler Store := fun call => do
  let store ← Run.get
  let value ← Run.ofExcept (read call store)
  pure (some value)

/-- The handler that answers a signed call with what it reads from the store. -/
def signedReading (chain : ChainId) (authority : Authority)
    (read : SignedCall → Store → Except Rpc.Error Value) : Handler Store :=
  signed chain authority fun call => do
    let store ← Run.get
    let value ← Run.ofExcept (read call store)
    pure (some value)

/-- Reads an argument that is a text. -/
def text : Reader String := readString "a string"

/-- Reads an argument that is a list of texts. -/
def texts : Reader (List String) := readList text

/-- A list of records as JSON. -/
def listOf {α : Type} (value : α → Value) (items : List α) : Value := .list (items.map value)

/-- The name of a post as JSON. -/
def postValue (post : Owned) : Value :=
  .ofMembers [("account", .string post.account), ("permlink", .string post.name)]

/-- The reads that anyone may make. -/
def publicReads : List (Route Store) := [
  ⟨"account_api", "get_profile", reading fun call store => do
    let account ← call.arg 0 text
    let profile ← store.profile account
    pure profile.value⟩,
  ⟨"account_api", "get_profiles", reading fun call store => do
    let accounts ← call.arg 0 texts
    pure (listOf Profile.value (store.profilesOf accounts))⟩,
  ⟨"account_api", "is_trusted", reading fun call store => do
    let account ← call.arg 0 text
    pure (.boolean (store.isTrusted account))⟩,
  ⟨"account_api", "get_trusted", reading fun call store => do
    let start ← call.arg 0 readUInt32
    let limit ← call.arg 1 readUInt32
    let profiles ← store.trusted start limit
    pure (listOf Profile.value profiles)⟩,
  ⟨"media_api", "get_media", reading fun call store => do
    let account ← call.arg 0 text
    let id ← call.arg 1 text
    let media ← store.mediaOf account id
    pure media.value⟩,
  ⟨"follow_api", "get_followers", reading fun call store => do
    let account ← call.arg 0 text
    let start ← call.arg 1 readUInt32
    let limit ← call.arg 2 readUInt32
    let profiles ← store.followers account start limit
    pure (listOf Profile.value profiles)⟩,
  ⟨"follow_api", "get_following", reading fun call store => do
    let account ← call.arg 0 text
    let start ← call.arg 1 readUInt32
    let limit ← call.arg 2 readUInt32
    let profiles ← store.following account start limit
    pure (listOf Profile.value profiles)⟩,
  ⟨"follow_api", "filter_followers", reading fun call store => do
    let account ← call.arg 0 text
    let candidates ← call.arg 1 texts
    pure (listOf Profile.value (store.filterFollowers account candidates))⟩,
  ⟨"follow_api", "filter_following", reading fun call store => do
    let account ← call.arg 0 text
    let candidates ← call.arg 1 texts
    pure (listOf Profile.value (store.filterFollowing account candidates))⟩,
  ⟨"category_api", "get_categories", reading fun call store => do
    let domain ← call.arg 0 text
    let categories ← store.categoriesOf domain
    pure (listOf Category.value categories)⟩,
  ⟨"category_api", "get_category", reading fun call store => do
    let domain ← call.arg 0 text
    let label ← call.arg 1 text
    let category ← store.categoryOf domain label
    pure category.value⟩,
  ⟨"blacklist_api", "is_blacklisted", reading fun call store => do
    let account ← call.arg 0 text
    let permlink ← call.arg 1 text
    pure (.boolean (store.isBlacklisted account permlink))⟩,
  ⟨"blacklist_api", "get_blacklist", reading fun call store => do
    let start ← call.arg 0 readUInt32
    let limit ← call.arg 1 readUInt32
    let posts ← store.blacklisted start limit
    pure (listOf postValue posts)⟩,
  ⟨"post_api", "get_downvotes", reading fun call store => do
    let author ← call.arg 0 text
    let permlink ← call.arg 1 text
    pure (listOf Downvote.value (store.downvotesOn author permlink))⟩]

/-- The reads that an account makes of what is its own. -/
def signedReads (chain : ChainId) (authority : Authority) (policy : Policy) :
    List (Route Store) := [
  ⟨"account_api", "get_profile_settings", signedReading chain authority fun call store => do
    let settings ← store.profileSettings call.account
    pure settings.value⟩,
  ⟨"draft_api", "get_draft", signedReading chain authority fun call store => do
    let id ← call.param 0 text
    let draft ← store.draft call.account id
    pure draft.value⟩,
  ⟨"draft_api", "get_drafts", signedReading chain authority fun call store =>
    pure (listOf Draft.value (store.draftsOf call.account))⟩,
  ⟨"notification_api", "get_notifications", signedReading chain authority fun call store =>
    pure (listOf Notification.value (store.notificationsOf policy call.account))⟩]

end BlogGateway.Gateway
