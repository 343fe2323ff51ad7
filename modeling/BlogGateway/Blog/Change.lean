/-
What operations do to the blog.

The operation is known to come from its account and to obey the field rules; whether it makes
sense now is decided here.  A change either gives the store afterwards or an error, so one
that fails has changed nothing.
-/
import BlogGateway.Blog.Store
import BlogGateway.Bytes.Base64
import BlogGateway.Operation.Body
import BlogGateway.Rpc.Error
import BlogGateway.Text.Lowercase

namespace BlogGateway.Blog

open Operation (Body Kind)

/-- What becomes of a store. -/
abbrev Change := Store → Except Rpc.Error Store

/-- The error of an account that has no profile or no settings. -/
def notFound (account : String) : Rpc.Error :=
  .of .profileNotFound s!"{account} not found"

/-- The error of an account that does what is for the administrator. -/
def notAdmin : Rpc.Error := .accessDenied "access denied"

/-- The error of a name that is no domain. -/
def noDomain : Rpc.Error := .invalidParameter "domain is invalid"

/-- The error of a category that is not there. -/
def noCategory : Rpc.Error := .of .categoryNotFound "category not found"

/-- The error of a draft that is not there. -/
def noDraft : Rpc.Error := .of .draftNotFound "draft not found"

namespace Store

/-! ### Profiles -/

/-- Gives an account a profile and settings, and leaves alone those that it has. -/
def register (moment : Moment) (op : Operation.Register) : Change := fun store => .ok
  { store with
    profiles := store.profiles.insertIfNew op.account (.fresh op.account moment.now)
    settings := store.settings.insertIfNew op.account ⟨op.account, true⟩ }

/-- Checks that a link is that of a picture of the account that suits a profile.  No link at
all is fine. -/
def checkPicture (store : Store) (account url : String) : Except Rpc.Error Unit :=
  if url = "" then .ok ()
  else match store.media.values.find? fun media => media.account = account && media.url = url with
    | none => .error (.of .mediaNotFound s!"{url} is not your media resource")
    | some media =>
      if media.contentType.suitsProfile then .ok ()
      else .error (.of .invalidMediaType "invalid media content-type")

/-- Changes what a profile shows. -/
def updateProfile (op : Operation.UpdateProfile) : Change := fun store =>
  match store.profiles[op.account]? with
  | none => .error (notFound op.account)
  | some profile => do
    store.checkPicture op.account op.avatarUrl
    store.checkPicture op.account op.coverUrl
    let profile := { profile with
      displayName := op.displayName
      location := op.location
      bio := op.bio
      avatarUrl := op.avatarUrl
      coverUrl := op.coverUrl }
    .ok { store with profiles := store.profiles.insert op.account profile }

/-- Vouches for an account, or no longer. -/
def setAccountTrusted (policy : Policy) (op : Operation.SetAccountTrustedAdmin) : Change :=
  fun store =>
    if op.account ≠ policy.adminAccount then .error notAdmin
    else match store.profiles[op.blogAccount]? with
      | none => .error (notFound op.blogAccount)
      | some profile =>
        let profile := { profile with isTrusted := op.isTrusted }
        .ok { store with profiles := store.profiles.insert op.blogAccount profile }

/-- Changes the settings of an account. -/
def updateProfileSettings (op : Operation.UpdateProfileSettings) : Change := fun store => .ok
  { store with
    settings := store.settings.insert op.account
      ⟨op.account, op.enableEmailUnseenNotifications⟩ }

/-- Remembers a device of an account. -/
def registerPushToken (op : Operation.RegisterPushToken) : Change := fun store => .ok
  { store with pushTokens := store.pushTokens.insert ⟨op.account, op.token⟩ }

/-! ### Follows -/

/-- Lets an account follow another, which is told so. -/
def follow (policy : Policy) (moment : Moment) (op : Operation.Follow) : Change := fun store =>
  if policy.maxFollows ≤ store.follows.countP (·.follower = op.account) then
    .error (.of .followsLimitReached "user reach max number of follows")
  else if store.isFollowing op.account op.follow then
    .error (.of .profileAlreadyFollowed s!"{op.account} already follows {op.follow}")
  else if !store.profiles.contains op.follow then .error (notFound op.follow)
  else
    let notification : Notification :=
      { id := moment.freshId
        account := op.follow
        notice := .startedFollow op.account
        isRead := false
        isSeen := false
        timestamp := moment.now }
    .ok { store with
      notifications := store.notifications ++ [notification]
      follows := store.follows ++ [⟨op.account, op.follow⟩] }

/-- Lets an account no longer follow another, and takes back that it was told so. -/
def unfollow (op : Operation.Unfollow) : Change := fun store => .ok
  { store with
    follows := store.follows.filter (· ≠ ⟨op.account, op.unfollow⟩)
    notifications :=
      store.notifications.filter fun notification =>
        !notification.isFollowOf op.account op.unfollow }

/-! ### Pictures -/

/-- The link of a picture. -/
def mediaUrl (policy : Policy) (account id : String) : String :=
  policy.mediaBaseUrl ++ "/" ++ account ++ "/" ++ id

/-- Stores a picture under its id in lower case. -/
def uploadMedia (policy : Policy) (moment : Moment) (op : Operation.UploadMedia) : Change :=
  fun store =>
    if !store.profiles.contains op.account then
      .error (.of .profileNotFound s!"{op.account} account does not exist")
    else match MediaType.ofText? op.contentType with
      | none => .error (.of .invalidMediaType "invalid content_type")
      | some contentType =>
        let id := Text.lowercase op.id
        if store.media.contains ⟨op.account, id⟩ then
          .error (.of .mediaAlreadyExists "media id already exists")
        else match Base64.decode? (Bytes.ofText op.media) with
          | none => .error (.of .invalidMedia "invalid Base64 encoding")
          | some bytes =>
            let media : Media :=
              { id := id
                account := op.account
                url := mediaUrl policy op.account id
                contentType := contentType
                size := bytes.length
                createdAt := moment.now }
            .ok { store with media := store.media.insert ⟨op.account, id⟩ media }

/-! ### Hidden posts -/

/-- Hides a post, which may be hidden already. -/
def addToBlacklist (policy : Policy) (op : Operation.AddToBlacklistAdmin) : Change :=
  fun store =>
    if op.account ≠ policy.adminAccount then .error notAdmin
    else if !store.profiles.contains op.blogAccount then
      .error (.of .profileNotFound "account doesn't exists")
    else .ok { store with blacklist := store.blacklist.insert ⟨op.blogAccount, op.permlink⟩ }

/-- Shows a hidden post again. -/
def removeFromBlacklist (policy : Policy) (op : Operation.RemoveFromBlacklistAdmin) : Change :=
  fun store =>
    if op.account ≠ policy.adminAccount then .error notAdmin
    else if !store.blacklist.contains ⟨op.blogAccount, op.permlink⟩ then
      .error (.of .blacklistEntryNotFound "blacklist entity not found")
    else .ok { store with blacklist := store.blacklist.erase ⟨op.blogAccount, op.permlink⟩ }

/-! ### Categories -/

/-- Adds a category at the end of its domain. -/
def addCategory (policy : Policy) (op : Operation.AddCategoryAdmin) : Change := fun store =>
  if op.account ≠ policy.adminAccount then .error notAdmin
  else match Domain.ofText? op.domain with
    | none => .error noDomain
    | some domain =>
      if (store.category? domain op.label).isSome then
        .error (.of .categoryAlreadyExists "category already exists")
      else
        let category : Category :=
          { domain := domain
            label := op.label
            order := 0
            localizationKey := op.localizationKey }
        .ok { store with
          categories := Category.renumber domain (store.categories ++ [category]) }

/-- Removes a category. -/
def removeCategory (policy : Policy) (op : Operation.RemoveCategoryAdmin) : Change :=
  fun store =>
    if op.account ≠ policy.adminAccount then .error notAdmin
    else match Domain.ofText? op.domain with
      | none => .error noDomain
      | some domain =>
        if (store.category? domain op.label).isNone then .error noCategory
        else
          let others := store.categories.eraseP (Category.isNamed domain op.label)
          .ok { store with categories := Category.renumber domain others }

/-- Moves a category to a place in its domain and renames it.  A place beyond the end is the
end, and both zero and one are the first. -/
def updateCategory (policy : Policy) (op : Operation.UpdateCategoryAdmin) : Change :=
  fun store =>
    if op.account ≠ policy.adminAccount then .error notAdmin
    else match Domain.ofText? op.domain with
      | none => .error noDomain
      | some domain =>
        match store.category? domain op.label with
        | none => .error noCategory
        | some category =>
          let others := store.categories.eraseP (Category.isNamed domain op.label)
          let category := { category with localizationKey := op.localizationKey }
          let moved := Category.insertAt category (op.order.toNat - 1) others
          .ok { store with categories := Category.renumber domain moved }

/-! ### Drafts -/

/-- Saves a draft over the one of the same id. -/
def upsertDraft (moment : Moment) (op : Operation.UpsertDraft) : Change := fun store =>
  if op.body = "" && op.title = "" then .error (.invalidParameter "empty body and title")
  else
    let createdAt := match store.drafts[(⟨op.account, op.id⟩ : Owned)]? with
      | some draft => draft.createdAt
      | none => moment.now
    let draft : Draft :=
      { id := op.id
        account := op.account
        title := op.title
        body := op.body
        jsonMetadata := op.jsonMetadata
        createdAt := createdAt
        updatedAt := moment.now }
    .ok { store with drafts := store.drafts.insert ⟨op.account, op.id⟩ draft }

/-- Removes a draft. -/
def removeDraft (op : Operation.RemoveDraft) : Change := fun store =>
  if !store.drafts.contains ⟨op.account, op.id⟩ then .error noDraft
  else .ok { store with drafts := store.drafts.erase ⟨op.account, op.id⟩ }

/-! ### Notifications -/

/-- Changes the notifications that satisfy a condition. -/
def mark (wanted : Notification → Bool) (change : Notification → Notification) : Change :=
  fun store => .ok
    { store with
      notifications := store.notifications.map fun notification =>
        if wanted notification then change notification else notification }

/-- Marks one notification of an account as read. -/
def markNotificationRead (op : Operation.MarkNotificationRead) : Change :=
  mark (fun notification => notification.account = op.account && notification.id = op.id)
    fun notification => { notification with isRead := true }

/-- Marks all notifications of an account as read. -/
def markAllNotificationsRead (op : Operation.MarkAllNotificationsRead) : Change :=
  mark (·.account = op.account) fun notification => { notification with isRead := true }

/-- Marks all notifications of an account as seen. -/
def markAllNotificationsSeen (op : Operation.MarkAllNotificationsSeen) : Change :=
  mark (·.account = op.account) fun notification => { notification with isSeen := true }

/-! ### Downvotes -/

/-- Casts a downvote in the place of the account's earlier one. -/
def castDownvote (op : Operation.Downvote) : Change := fun store =>
  match DownvoteReason.ofText? op.reason with
  | none => .error (.invalidParameter "invalid reason")
  | some reason =>
    let downvote : Downvote := ⟨op.account, op.author, op.permlink, reason, op.comment⟩
    .ok { store with downvotes := downvote.put store.downvotes }

/-- Takes a downvote back. -/
def removeDownvote (op : Operation.RemoveDownvote) : Change := fun store =>
  let isIt := Downvote.isCast op.account op.author op.permlink
  if !store.downvotes.any isIt then .error (.of .downvoteNotFound "downvote not found")
  else .ok { store with downvotes := store.downvotes.filter fun downvote => !isIt downvote }

/-! ### All kinds -/

/-- What an operation of the given kind does. -/
def apply (policy : Policy) (moment : Moment) : (kind : Kind) → Body kind → Change
  | .register, (op : Operation.Register) => register moment op
  | .updateProfile, (op : Operation.UpdateProfile) => updateProfile op
  | .follow, (op : Operation.Follow) => follow policy moment op
  | .unfollow, (op : Operation.Unfollow) => unfollow op
  | .uploadMedia, (op : Operation.UploadMedia) => uploadMedia policy moment op
  | .addToBlacklistAdmin, (op : Operation.AddToBlacklistAdmin) => addToBlacklist policy op
  | .removeFromBlacklistAdmin, (op : Operation.RemoveFromBlacklistAdmin) =>
    removeFromBlacklist policy op
  | .addCategoryAdmin, (op : Operation.AddCategoryAdmin) => addCategory policy op
  | .removeCategoryAdmin, (op : Operation.RemoveCategoryAdmin) => removeCategory policy op
  | .updateCategoryAdmin, (op : Operation.UpdateCategoryAdmin) => updateCategory policy op
  | .setAccountTrustedAdmin, (op : Operation.SetAccountTrustedAdmin) =>
    setAccountTrusted policy op
  | .upsertDraft, (op : Operation.UpsertDraft) => upsertDraft moment op
  | .removeDraft, (op : Operation.RemoveDraft) => removeDraft op
  | .markNotificationRead, (op : Operation.MarkNotificationRead) => markNotificationRead op
  | .markAllNotificationsRead, (op : Operation.MarkAllNotificationsRead) =>
    markAllNotificationsRead op
  | .markAllNotificationsSeen, (op : Operation.MarkAllNotificationsSeen) =>
    markAllNotificationsSeen op
  | .updateProfileSettings, (op : Operation.UpdateProfileSettings) => updateProfileSettings op
  | .registerPushToken, (op : Operation.RegisterPushToken) => registerPushToken op
  | .downvote, (op : Operation.Downvote) => castDownvote op
  | .removeDownvote, (op : Operation.RemoveDownvote) => removeDownvote op

end Store

end BlogGateway.Blog
