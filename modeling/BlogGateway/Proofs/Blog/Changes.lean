/-
What a change that succeeds has done.

`Does` says once for every kind of operation under which conditions it succeeds and what the
store is afterwards.  A proof about changes takes a change apart with `does_of_apply`, or puts
one together with `apply_of_does`, and looks at the store of each case; no such proof opens
the change itself.
-/
import BlogGateway.Blog.Change
import BlogGateway.Proofs.Except

namespace BlogGateway.Blog.Store

open Operation

/-- What an operation that succeeds makes of a store. -/
inductive Does (policy : Policy) (moment : Moment) (store : Store) :
    (kind : Kind) → Body kind → Store → Prop
  | register (op : Register) :
      Does policy moment store .register op { store with
        profiles := store.profiles.insertIfNew op.account (.fresh op.account moment.now)
        settings := store.settings.insertIfNew op.account ⟨op.account, true⟩ }
  | updateProfile (op : UpdateProfile) {profile : Profile}
      (found : store.profiles[op.account]? = some profile)
      (avatar : store.checkPicture op.account op.avatarUrl = .ok ())
      (cover : store.checkPicture op.account op.coverUrl = .ok ()) :
      Does policy moment store .updateProfile op { store with
        profiles := store.profiles.insert op.account { profile with
          displayName := op.displayName
          location := op.location
          bio := op.bio
          avatarUrl := op.avatarUrl
          coverUrl := op.coverUrl } }
  | follow (op : Follow)
      (room : store.follows.countP (·.follower = op.account) < policy.maxFollows)
      (new : store.isFollowing op.account op.follow = false)
      (known : op.follow ∈ store.profiles) :
      Does policy moment store .follow op { store with
        notifications := store.notifications ++
          [⟨moment.freshId, op.follow, .startedFollow op.account, false, false, moment.now⟩]
        follows := store.follows ++ [⟨op.account, op.follow⟩] }
  | unfollow (op : Unfollow) :
      Does policy moment store .unfollow op { store with
        follows := store.follows.filter (· ≠ ⟨op.account, op.unfollow⟩)
        notifications := store.notifications.filter fun notification =>
          !notification.isFollowOf op.account op.unfollow }
  | uploadMedia (op : UploadMedia) {contentType : MediaType} {bytes : Bytes}
      (known : op.account ∈ store.profiles)
      (typed : MediaType.ofText? op.contentType = some contentType)
      (new : ⟨op.account, Text.lowercase op.id⟩ ∉ store.media)
      (decoded : Base64.decode? (Bytes.ofText op.media) = some bytes) :
      Does policy moment store .uploadMedia op { store with
        media := store.media.insert ⟨op.account, Text.lowercase op.id⟩
          ⟨Text.lowercase op.id, op.account, mediaUrl policy op.account (Text.lowercase op.id),
            contentType, bytes.length, moment.now⟩ }
  | addToBlacklist (op : AddToBlacklistAdmin) (admin : op.account = policy.adminAccount)
      (known : op.blogAccount ∈ store.profiles) :
      Does policy moment store .addToBlacklistAdmin op { store with
        blacklist := store.blacklist.insert ⟨op.blogAccount, op.permlink⟩ }
  | removeFromBlacklist (op : RemoveFromBlacklistAdmin)
      (admin : op.account = policy.adminAccount)
      (listed : ⟨op.blogAccount, op.permlink⟩ ∈ store.blacklist) :
      Does policy moment store .removeFromBlacklistAdmin op { store with
        blacklist := store.blacklist.erase ⟨op.blogAccount, op.permlink⟩ }
  | addCategory (op : AddCategoryAdmin) {domain : Domain}
      (admin : op.account = policy.adminAccount) (named : Domain.ofText? op.domain = some domain)
      (new : store.category? domain op.label = none) :
      Does policy moment store .addCategoryAdmin op { store with
        categories := Category.renumber domain
          (store.categories ++ [⟨domain, op.label, 0, op.localizationKey⟩]) }
  | removeCategory (op : RemoveCategoryAdmin) {domain : Domain} {category : Category}
      (admin : op.account = policy.adminAccount) (named : Domain.ofText? op.domain = some domain)
      (found : store.category? domain op.label = some category) :
      Does policy moment store .removeCategoryAdmin op { store with
        categories := Category.renumber domain
          (store.categories.eraseP (Category.isNamed domain op.label)) }
  | updateCategory (op : UpdateCategoryAdmin) {domain : Domain} {category : Category}
      (admin : op.account = policy.adminAccount) (named : Domain.ofText? op.domain = some domain)
      (found : store.category? domain op.label = some category) :
      Does policy moment store .updateCategoryAdmin op { store with
        categories := Category.renumber domain
          (Category.insertAt { category with localizationKey := op.localizationKey }
            (op.order.toNat - 1)
            (store.categories.eraseP (Category.isNamed domain op.label))) }
  | setAccountTrusted (op : SetAccountTrustedAdmin) {profile : Profile}
      (admin : op.account = policy.adminAccount)
      (found : store.profiles[op.blogAccount]? = some profile) :
      Does policy moment store .setAccountTrustedAdmin op { store with
        profiles := store.profiles.insert op.blogAccount
          { profile with isTrusted := op.isTrusted } }
  | upsertDraft (op : UpsertDraft) {createdAt : Timestamp}
      (said : ¬ (op.body = "" ∧ op.title = ""))
      (created : createdAt = match store.drafts[(⟨op.account, op.id⟩ : Owned)]? with
        | some draft => draft.createdAt
        | none => moment.now) :
      Does policy moment store .upsertDraft op { store with
        drafts := store.drafts.insert ⟨op.account, op.id⟩
          ⟨op.id, op.account, op.title, op.body, op.jsonMetadata, createdAt, moment.now⟩ }
  | removeDraft (op : RemoveDraft)
      (kept : ⟨op.account, op.id⟩ ∈ store.drafts) :
      Does policy moment store .removeDraft op { store with
        drafts := store.drafts.erase ⟨op.account, op.id⟩ }
  | markNotificationRead (op : MarkNotificationRead) :
      Does policy moment store .markNotificationRead op { store with
        notifications := store.notifications.map fun notification =>
          if notification.account = op.account && notification.id = op.id then
            { notification with isRead := true }
          else notification }
  | markAllNotificationsRead (op : MarkAllNotificationsRead) :
      Does policy moment store .markAllNotificationsRead op { store with
        notifications := store.notifications.map fun notification =>
          if notification.account = op.account then { notification with isRead := true }
          else notification }
  | markAllNotificationsSeen (op : MarkAllNotificationsSeen) :
      Does policy moment store .markAllNotificationsSeen op { store with
        notifications := store.notifications.map fun notification =>
          if notification.account = op.account then { notification with isSeen := true }
          else notification }
  | updateProfileSettings (op : UpdateProfileSettings) :
      Does policy moment store .updateProfileSettings op { store with
        settings := store.settings.insert op.account
          ⟨op.account, op.enableEmailUnseenNotifications⟩ }
  | registerPushToken (op : RegisterPushToken) :
      Does policy moment store .registerPushToken op { store with
        pushTokens := store.pushTokens.insert ⟨op.account, op.token⟩ }
  | castDownvote (op : Operation.Downvote) {reason : DownvoteReason}
      (reasoned : DownvoteReason.ofText? op.reason = some reason) :
      Does policy moment store .downvote op { store with
        downvotes := Downvote.put ⟨op.account, op.author, op.permlink, reason, op.comment⟩
          store.downvotes }
  | removeDownvote (op : RemoveDownvote)
      (cast : store.downvotes.any (Downvote.isCast op.account op.author op.permlink) = true) :
      Does policy moment store .removeDownvote op { store with
        downvotes := store.downvotes.filter fun downvote =>
          !Downvote.isCast op.account op.author op.permlink downvote }

variable {policy : Policy} {moment : Moment} {store after : Store}

/-- What the administrator alone may do succeeds for nobody else, and then as it does for the
administrator. -/
private theorem admin_of_ok {account : String} {change : Except Rpc.Error Store}
    (h : (if account ≠ policy.adminAccount then .error notAdmin else change) = .ok after) :
    account = policy.adminAccount ∧ change = .ok after := by
  by_cases admin : account = policy.adminAccount
  · rw [if_neg (not_not_intro admin)] at h
    exact ⟨admin, h⟩
  · rw [if_pos admin] at h
    cases h

/-- A change that succeeds has done what its kind does. -/
theorem does_of_apply {kind : Kind} {op : Body kind}
    (h : apply policy moment kind op store = .ok after) :
    Does policy moment store kind op after := by
  cases kind with
  | register =>
      obtain rfl := Except.ok.inj h
      exact .register op
  | updateProfile =>
      simp only [apply, updateProfile] at h
      split at h
      · cases h
      · rename_i profile found
        obtain ⟨_, avatar, h⟩ := Except.bind_eq_ok_iff.mp h
        obtain ⟨_, cover, h⟩ := Except.bind_eq_ok_iff.mp h
        obtain rfl := Except.ok.inj h
        exact .updateProfile op found avatar cover
  | follow =>
      simp only [apply, follow] at h
      split at h
      · cases h
      · rename_i room
        split at h
        · cases h
        · rename_i new
          split at h
          · cases h
          · rename_i known
            obtain rfl := Except.ok.inj h
            exact .follow op (Nat.lt_of_not_le room) (by simpa using new) (by simpa using known)
  | unfollow =>
      obtain rfl := Except.ok.inj h
      exact .unfollow op
  | uploadMedia =>
      simp only [apply, uploadMedia] at h
      split at h
      · cases h
      · rename_i known
        split at h
        · cases h
        · rename_i contentType typed
          split at h
          · cases h
          · rename_i new
            split at h
            · cases h
            · rename_i bytes decoded
              obtain rfl := Except.ok.inj h
              exact .uploadMedia op (by simpa using known) typed (by simpa using new) decoded
  | addToBlacklistAdmin =>
      obtain ⟨admin, h⟩ := admin_of_ok h
      split at h
      · cases h
      · rename_i known
        obtain rfl := Except.ok.inj h
        exact .addToBlacklist op admin (by simpa using known)
  | removeFromBlacklistAdmin =>
      obtain ⟨admin, h⟩ := admin_of_ok h
      split at h
      · cases h
      · rename_i listed
        obtain rfl := Except.ok.inj h
        exact .removeFromBlacklist op admin (by simpa using listed)
  | addCategoryAdmin =>
      obtain ⟨admin, h⟩ := admin_of_ok h
      split at h
      · cases h
      · rename_i domain named
        split at h
        · cases h
        · rename_i new
          obtain rfl := Except.ok.inj h
          exact .addCategory op admin named (by simpa using new)
  | removeCategoryAdmin =>
      obtain ⟨admin, h⟩ := admin_of_ok h
      split at h
      · cases h
      · rename_i domain named
        split at h
        · cases h
        · rename_i found
          obtain rfl := Except.ok.inj h
          obtain ⟨category, found⟩ := Option.ne_none_iff_exists'.mp (by simpa using found)
          exact .removeCategory op admin named found
  | updateCategoryAdmin =>
      obtain ⟨admin, h⟩ := admin_of_ok h
      split at h
      · cases h
      · rename_i domain named
        split at h
        · cases h
        · rename_i category found
          obtain rfl := Except.ok.inj h
          exact .updateCategory op admin named found
  | setAccountTrustedAdmin =>
      obtain ⟨admin, h⟩ := admin_of_ok h
      split at h
      · cases h
      · rename_i profile found
        obtain rfl := Except.ok.inj h
        exact .setAccountTrusted op admin found
  | upsertDraft =>
      simp only [apply, upsertDraft] at h
      split at h
      · cases h
      · rename_i said
        obtain rfl := Except.ok.inj h
        exact .upsertDraft op (by simpa using said) rfl
  | removeDraft =>
      simp only [apply, removeDraft] at h
      split at h
      · cases h
      · rename_i kept
        obtain rfl := Except.ok.inj h
        exact .removeDraft op (by simpa using kept)
  | markNotificationRead =>
      obtain rfl := Except.ok.inj h
      exact .markNotificationRead op
  | markAllNotificationsRead =>
      obtain rfl := Except.ok.inj h
      simpa using Does.markAllNotificationsRead op
  | markAllNotificationsSeen =>
      obtain rfl := Except.ok.inj h
      simpa using Does.markAllNotificationsSeen op
  | updateProfileSettings =>
      obtain rfl := Except.ok.inj h
      exact .updateProfileSettings op
  | registerPushToken =>
      obtain rfl := Except.ok.inj h
      exact .registerPushToken op
  | downvote =>
      simp only [apply, castDownvote] at h
      split at h
      · cases h
      · rename_i reason reasoned
        obtain rfl := Except.ok.inj h
        exact .castDownvote op reasoned
  | removeDownvote =>
      simp only [apply, removeDownvote] at h
      split at h
      · cases h
      · rename_i cast
        obtain rfl := Except.ok.inj h
        exact .removeDownvote op (by simpa using cast)

/-- Under the conditions of its kind a change does succeed. -/
theorem apply_of_does {kind : Kind} {op : Body kind}
    (does : Does policy moment store kind op after) :
    apply policy moment kind op store = .ok after := by
  cases does with
  | register | unfollow | markNotificationRead | updateProfileSettings | registerPushToken => rfl
  | markAllNotificationsRead => simp [apply, markAllNotificationsRead, mark]
  | markAllNotificationsSeen => simp [apply, markAllNotificationsSeen, mark]
  | updateProfile op found avatar cover =>
      simp only [apply, updateProfile, found, avatar, cover]
      rfl
  | follow op room new known =>
      simp [apply, follow, Nat.not_le.mpr room, new, Std.ExtTreeMap.contains_iff_mem.mpr known]
  | uploadMedia op known typed new decoded =>
      simp [apply, uploadMedia, known, typed, new, decoded]
  | addToBlacklist op admin known => simp [apply, addToBlacklist, admin, known]
  | removeFromBlacklist op admin listed => simp [apply, removeFromBlacklist, admin, listed]
  | addCategory op admin named new => simp [apply, addCategory, admin, named, new]
  | removeCategory op admin named found => simp [apply, removeCategory, admin, named, found]
  | updateCategory op admin named found => simp [apply, updateCategory, admin, named, found]
  | setAccountTrusted op admin found => simp [apply, setAccountTrusted, admin, found]
  | upsertDraft op said created =>
      subst created
      exact if_neg (by simpa using said)
  | removeDraft op kept => simp [apply, removeDraft, kept]
  | castDownvote op reasoned => simp [apply, castDownvote, reasoned]
  | removeDownvote op cast => simp [apply, removeDownvote, cast]

end BlogGateway.Blog.Store
