/-
Changes as they are carried out.

The store that the gateway works on is changed in place: an operation looks at it, writes to
it step by step, and may fail at any of its steps, and then whatever it has written stays.
Several operations do write before they know that they succeed: what is to be removed is
removed first, and only then it is asked whether there was anything.
-/
import BlogGateway.Blog.Change
import BlogGateway.Rpc.Run

namespace BlogGateway.Blog.InPlace

open Operation (Body Kind)

/-- What is done to the store. -/
abbrev Steps := Run Store Unit

/-- Lets only the administrator go on. -/
def requireAdmin (policy : Policy) (account : String) : Steps :=
  Run.ensure (account = policy.adminAccount) notAdmin

/-- The domain of a name, which has to be one. -/
def requireDomain (name : String) : Run Store Domain :=
  Run.require (Domain.ofText? name) noDomain

/-- Lets only go on who has a profile. -/
def requireProfile (account : String) (error : Rpc.Error) : Steps := do
  Run.ensure (account ∈ (← Run.get).profiles) error

/-! ### Profiles -/

/-- Gives an account a profile and then settings, unless it has them. -/
def register (moment : Moment) (op : Operation.Register) : Steps := do
  Run.modify fun store => { store with
    profiles := store.profiles.insertIfNew op.account (.fresh op.account moment.now) }
  Run.modify fun store => { store with
    settings := store.settings.insertIfNew op.account ⟨op.account, true⟩ }

/-- Checks the links, and then changes what the profile shows. -/
def updateProfile (op : Operation.UpdateProfile) : Steps := do
  requireProfile op.account (notFound op.account)
  let store ← Run.get
  Run.ofExcept (store.checkPicture op.account op.avatarUrl)
  Run.ofExcept (store.checkPicture op.account op.coverUrl)
  let profile ← Run.require store.profiles[op.account]? (notFound op.account)
  Run.modify fun store => { store with
    profiles := store.profiles.insert op.account { profile with
      displayName := op.displayName
      location := op.location
      bio := op.bio
      avatarUrl := op.avatarUrl
      coverUrl := op.coverUrl } }

/-- Vouches for an account, or no longer. -/
def setAccountTrusted (policy : Policy) (op : Operation.SetAccountTrustedAdmin) : Steps := do
  requireAdmin policy op.account
  let profile ← Run.require (← Run.get).profiles[op.blogAccount]? (notFound op.blogAccount)
  Run.modify fun store => { store with
    profiles := store.profiles.insert op.blogAccount { profile with isTrusted := op.isTrusted } }

/-- Changes the settings of an account. -/
def updateProfileSettings (op : Operation.UpdateProfileSettings) : Steps :=
  Run.modify fun store => { store with
    settings := store.settings.insert op.account
      ⟨op.account, op.enableEmailUnseenNotifications⟩ }

/-- Remembers a device of an account. -/
def registerPushToken (op : Operation.RegisterPushToken) : Steps :=
  Run.modify fun store => { store with
    pushTokens := store.pushTokens.insert ⟨op.account, op.token⟩ }

/-! ### Follows -/

/-- Tells the followed account first, and then remembers the follow. -/
def follow (policy : Policy) (moment : Moment) (op : Operation.Follow) : Steps := do
  let store ← Run.get
  Run.ensure (store.follows.countP (·.follower = op.account) < policy.maxFollows)
    (.of .followsLimitReached "user reach max number of follows")
  Run.ensure (store.isFollowing op.account op.follow = false)
    (.of .profileAlreadyFollowed s!"{op.account} already follows {op.follow}")
  requireProfile op.follow (notFound op.follow)
  Run.modify fun store => { store with
    notifications := store.notifications ++
      [⟨moment.freshId, op.follow, .startedFollow op.account, false, false, moment.now⟩] }
  Run.modify fun store => { store with
    follows := store.follows ++ [⟨op.account, op.follow⟩] }

/-- Forgets the follow first, and then takes back that it was told. -/
def unfollow (op : Operation.Unfollow) : Steps := do
  Run.modify fun store => { store with
    follows := store.follows.filter (· ≠ ⟨op.account, op.unfollow⟩) }
  Run.modify fun store => { store with
    notifications := store.notifications.filter fun notification =>
      !notification.isFollowOf op.account op.unfollow }

/-! ### Pictures -/

/-- Stores a picture under its id in lower case. -/
def uploadMedia (policy : Policy) (moment : Moment) (op : Operation.UploadMedia) : Steps := do
  requireProfile op.account (.of .profileNotFound s!"{op.account} account does not exist")
  let contentType ← Run.require (MediaType.ofText? op.contentType)
    (.of .invalidMediaType "invalid content_type")
  let id := Text.lowercase op.id
  Run.ensure (⟨op.account, id⟩ ∉ (← Run.get).media)
    (.of .mediaAlreadyExists "media id already exists")
  let bytes ← Run.require (Base64.decode? (Bytes.ofText op.media))
    (.of .invalidMedia "invalid Base64 encoding")
  Run.modify fun store => { store with
    media := store.media.insert ⟨op.account, id⟩
      ⟨id, op.account, Store.mediaUrl policy op.account id, contentType, bytes.length,
        moment.now⟩ }

/-! ### Hidden posts -/

/-- Hides a post, which may be hidden already. -/
def addToBlacklist (policy : Policy) (op : Operation.AddToBlacklistAdmin) : Steps := do
  requireAdmin policy op.account
  requireProfile op.blogAccount (.of .profileNotFound "account doesn't exists")
  Run.modify fun store => { store with
    blacklist := store.blacklist.insert ⟨op.blogAccount, op.permlink⟩ }

/-- Takes a post off the list, and then fails if it was not on it. -/
def removeFromBlacklist (policy : Policy) (op : Operation.RemoveFromBlacklistAdmin) :
    Steps := do
  requireAdmin policy op.account
  let before := (← Run.get).blacklist
  Run.modify fun store => { store with
    blacklist := store.blacklist.erase ⟨op.blogAccount, op.permlink⟩ }
  Run.ensure (⟨op.blogAccount, op.permlink⟩ ∈ before)
    (.of .blacklistEntryNotFound "blacklist entity not found")

/-! ### Categories -/

/-- Numbers the categories of a domain again. -/
def renumber (domain : Domain) : Steps :=
  Run.modify fun store => { store with
    categories := Category.renumber domain store.categories }

/-- Takes the category with a label out of its domain. -/
def takeOut (domain : Domain) (label : String) : Run Store Category := do
  let category ← Run.require ((← Run.get).category? domain label) noCategory
  Run.modify fun store => { store with
    categories := store.categories.eraseP (Category.isNamed domain label) }
  pure category

/-- Adds a category without a number, and then numbers its domain. -/
def addCategory (policy : Policy) (op : Operation.AddCategoryAdmin) : Steps := do
  requireAdmin policy op.account
  let domain ← requireDomain op.domain
  Run.ensure ((← Run.get).category? domain op.label = none)
    (.of .categoryAlreadyExists "category already exists")
  Run.modify fun store => { store with
    categories := store.categories ++ [⟨domain, op.label, 0, op.localizationKey⟩] }
  renumber domain

/-- Takes a category out, and then numbers its domain. -/
def removeCategory (policy : Policy) (op : Operation.RemoveCategoryAdmin) : Steps := do
  requireAdmin policy op.account
  let domain ← requireDomain op.domain
  let _ ← takeOut domain op.label
  renumber domain

/-- Takes a category out, puts it back at its new place among those that are left, and then
numbers its domain. -/
def updateCategory (policy : Policy) (op : Operation.UpdateCategoryAdmin) : Steps := do
  requireAdmin policy op.account
  let domain ← requireDomain op.domain
  let category ← takeOut domain op.label
  let position := (max op.order 1).toNat - 1
  let index := Category.indexIn domain position (← Run.get).categories
  Run.modify fun store => { store with
    categories :=
      store.categories.insertIdx index { category with localizationKey := op.localizationKey } }
  renumber domain

/-! ### Drafts -/

/-- Saves a draft over the one of the same id, which keeps the time of its making. -/
def upsertDraft (moment : Moment) (op : Operation.UpsertDraft) : Steps := do
  Run.ensure (¬ (op.body = "" ∧ op.title = "")) (.invalidParameter "empty body and title")
  match (← Run.get).drafts[(⟨op.account, op.id⟩ : Owned)]? with
  | some draft =>
    Run.modify fun store => { store with
      drafts := store.drafts.insert ⟨op.account, op.id⟩ ⟨op.id, op.account, op.title, op.body,
        op.jsonMetadata, draft.createdAt, moment.now⟩ }
  | none =>
    Run.modify fun store => { store with
      drafts := store.drafts.insert ⟨op.account, op.id⟩ ⟨op.id, op.account, op.title, op.body,
        op.jsonMetadata, moment.now, moment.now⟩ }

/-- Removes a draft, and then fails if there was none. -/
def removeDraft (op : Operation.RemoveDraft) : Steps := do
  let before := (← Run.get).drafts
  Run.modify fun store => { store with drafts := store.drafts.erase ⟨op.account, op.id⟩ }
  Run.ensure (⟨op.account, op.id⟩ ∈ before) noDraft

/-! ### Notifications -/

/-- Changes the notifications that satisfy a condition. -/
def mark (wanted : Notification → Bool) (change : Notification → Notification) : Steps :=
  Run.modify fun store => { store with
    notifications := store.notifications.map fun notification =>
      if wanted notification then change notification else notification }

/-- Marks one notification of an account as read. -/
def markNotificationRead (op : Operation.MarkNotificationRead) : Steps :=
  mark (fun notification => notification.account = op.account && notification.id = op.id)
    fun notification => { notification with isRead := true }

/-- Marks all notifications of an account as read. -/
def markAllNotificationsRead (op : Operation.MarkAllNotificationsRead) : Steps :=
  mark (·.account = op.account) fun notification => { notification with isRead := true }

/-- Marks all notifications of an account as seen. -/
def markAllNotificationsSeen (op : Operation.MarkAllNotificationsSeen) : Steps :=
  mark (·.account = op.account) fun notification => { notification with isSeen := true }

/-! ### Downvotes -/

/-- Casts a downvote in the place of the account's earlier one. -/
def castDownvote (op : Operation.Downvote) : Steps := do
  let reason ← Run.require (DownvoteReason.ofText? op.reason) (.invalidParameter "invalid reason")
  Run.modify fun store => { store with
    downvotes := Downvote.put ⟨op.account, op.author, op.permlink, reason, op.comment⟩
      store.downvotes }

/-- Removes a downvote, and then fails if there are as many as before. -/
def removeDownvote (op : Operation.RemoveDownvote) : Steps := do
  let before := (← Run.get).downvotes.length
  Run.modify fun store => { store with
    downvotes := store.downvotes.filter fun downvote =>
      !Downvote.isCast op.account op.author op.permlink downvote }
  Run.ensure ((← Run.get).downvotes.length ≠ before)
    (.of .downvoteNotFound "downvote not found")

/-! ### All kinds -/

/-- What an operation of the given kind does to the store. -/
def apply (policy : Policy) (moment : Moment) : (kind : Kind) → Body kind → Steps
  | .register, (op : Operation.Register) => register moment op
  | .updateProfile, (op : Operation.UpdateProfile) => updateProfile op
  | .follow, (op : Operation.Follow) => follow policy moment op
  | .unfollow, (op : Operation.Unfollow) => unfollow op
  | .uploadMedia, (op : Operation.UploadMedia) => uploadMedia policy moment op
  | .addToBlacklistAdmin, (op : Operation.AddToBlacklistAdmin) => addToBlacklist policy op
  | .removeFromBlacklistAdmin, (op : Operation.RemoveFromBlacklistAdmin) =>
    removeFromBlacklist policy op
  | .addCategoryAdmin, (op : Operation.AddCategoryAdmin) => addCategory policy op
  | .removeCategoryAdmin, (op : Operation.RemoveCategoryAdmin) => removeCategory policy op
  | .updateCategoryAdmin, (op : Operation.UpdateCategoryAdmin) => updateCategory policy op
  | .setAccountTrustedAdmin, (op : Operation.SetAccountTrustedAdmin) =>
    setAccountTrusted policy op
  | .upsertDraft, (op : Operation.UpsertDraft) => upsertDraft moment op
  | .removeDraft, (op : Operation.RemoveDraft) => removeDraft op
  | .markNotificationRead, (op : Operation.MarkNotificationRead) => markNotificationRead op
  | .markAllNotificationsRead, (op : Operation.MarkAllNotificationsRead) =>
    markAllNotificationsRead op
  | .markAllNotificationsSeen, (op : Operation.MarkAllNotificationsSeen) =>
    markAllNotificationsSeen op
  | .updateProfileSettings, (op : Operation.UpdateProfileSettings) => updateProfileSettings op
  | .registerPushToken, (op : Operation.RegisterPushToken) => registerPushToken op
  | .downvote, (op : Operation.Downvote) => castDownvote op
  | .removeDownvote, (op : Operation.RemoveDownvote) => removeDownvote op

end BlogGateway.Blog.InPlace
