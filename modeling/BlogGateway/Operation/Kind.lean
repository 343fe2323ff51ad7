/-
The kinds of operation.

Every kind has a tag, by which JSON names it, and a code, which stands for it in the signed
bytes.  Codes were given out in order and are never given out again: the kind that had code
five is retired, and its code stays unused.
-/
namespace BlogGateway.Operation

/-- A kind of operation that the gateway knows. -/
inductive Kind
  | register
  | updateProfile
  | follow
  | unfollow
  | uploadMedia
  | addToBlacklistAdmin
  | removeFromBlacklistAdmin
  | addCategoryAdmin
  | removeCategoryAdmin
  | updateCategoryAdmin
  | setAccountTrustedAdmin
  | upsertDraft
  | removeDraft
  | markNotificationRead
  | markAllNotificationsRead
  | markAllNotificationsSeen
  | updateProfileSettings
  | registerPushToken
  | downvote
  | removeDownvote
  deriving DecidableEq, Repr, Inhabited

namespace Kind

/-- All kinds, in the order of their codes. -/
def all : List Kind := [
  .register,
  .updateProfile,
  .follow,
  .unfollow,
  .uploadMedia,
  .addToBlacklistAdmin,
  .removeFromBlacklistAdmin,
  .addCategoryAdmin,
  .removeCategoryAdmin,
  .updateCategoryAdmin,
  .setAccountTrustedAdmin,
  .upsertDraft,
  .removeDraft,
  .markNotificationRead,
  .markAllNotificationsRead,
  .markAllNotificationsSeen,
  .updateProfileSettings,
  .registerPushToken,
  .downvote,
  .removeDownvote]

/-- The codes that no kind may take again. -/
def retiredCodes : List Nat := [5]

/-- The code that stands for a kind in signed bytes. -/
def code : Kind → Nat
  | .register => 0
  | .updateProfile => 1
  | .follow => 2
  | .unfollow => 3
  | .uploadMedia => 4
  | .addToBlacklistAdmin => 6
  | .removeFromBlacklistAdmin => 7
  | .addCategoryAdmin => 8
  | .removeCategoryAdmin => 9
  | .updateCategoryAdmin => 10
  | .setAccountTrustedAdmin => 11
  | .upsertDraft => 12
  | .removeDraft => 13
  | .markNotificationRead => 14
  | .markAllNotificationsRead => 15
  | .markAllNotificationsSeen => 16
  | .updateProfileSettings => 17
  | .registerPushToken => 18
  | .downvote => 19
  | .removeDownvote => 20

/-- The name of a kind in JSON. -/
def tag : Kind → String
  | .register => "register"
  | .updateProfile => "update_profile"
  | .follow => "follow"
  | .unfollow => "unfollow"
  | .uploadMedia => "upload_media"
  | .addToBlacklistAdmin => "add_to_blacklist_admin"
  | .removeFromBlacklistAdmin => "remove_from_blacklist_admin"
  | .addCategoryAdmin => "add_category_admin"
  | .removeCategoryAdmin => "remove_category_admin"
  | .updateCategoryAdmin => "update_category_admin"
  | .setAccountTrustedAdmin => "set_account_trusted_admin"
  | .upsertDraft => "upsert_draft"
  | .removeDraft => "remove_draft"
  | .markNotificationRead => "mark_notification_read"
  | .markAllNotificationsRead => "mark_all_notifications_read"
  | .markAllNotificationsSeen => "mark_all_notifications_seen"
  | .updateProfileSettings => "update_profile_settings"
  | .registerPushToken => "register_push_token"
  | .downvote => "downvote"
  | .removeDownvote => "remove_downvote"

/-- The kind with the given tag. -/
def ofTag? (tag : String) : Option Kind := all.find? fun kind => kind.tag = tag

theorem mem_all (kind : Kind) : kind ∈ all := by
  cases kind <;> decide

theorem tag_injective {a b : Kind} (h : a.tag = b.tag) : a = b := by
  cases a <;> cases b <;> simp_all [tag]

theorem code_injective {a b : Kind} (h : a.code = b.code) : a = b := by
  cases a <;> cases b <;> simp_all [code]

end Kind

end BlogGateway.Operation
