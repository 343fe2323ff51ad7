/-
What an operation says, kind by kind.

Every body names first the account that claims to perform the operation; the signature has
to be made with a key of that account.
-/
import BlogGateway.Operation.Kind
import BlogGateway.Uuid

namespace BlogGateway.Operation

/-- Create a profile for an account of the chain. -/
structure Register where
  account : String
  deriving DecidableEq, Repr, Inhabited

/-- Change what a profile shows. -/
structure UpdateProfile where
  account : String
  displayName : String
  location : String
  bio : String
  avatarUrl : String
  coverUrl : String
  deriving DecidableEq, Repr, Inhabited

/-- Follow another account. -/
structure Follow where
  account : String
  follow : String
  deriving DecidableEq, Repr, Inhabited

/-- Stop following an account. -/
structure Unfollow where
  account : String
  unfollow : String
  deriving DecidableEq, Repr, Inhabited

/-- Store a picture under an id that the account chooses. -/
structure UploadMedia where
  account : String
  id : String
  media : String
  contentType : String
  deriving DecidableEq, Repr, Inhabited

/-- Hide a post; for the administrator. -/
structure AddToBlacklistAdmin where
  account : String
  blogAccount : String
  permlink : String
  deriving DecidableEq, Repr, Inhabited

/-- Show a hidden post again; for the administrator. -/
structure RemoveFromBlacklistAdmin where
  account : String
  blogAccount : String
  permlink : String
  deriving DecidableEq, Repr, Inhabited

/-- Add a category at the end of its domain; for the administrator. -/
structure AddCategoryAdmin where
  account : String
  domain : String
  label : String
  localizationKey : String
  deriving DecidableEq, Repr, Inhabited

/-- Remove a category; for the administrator. -/
structure RemoveCategoryAdmin where
  account : String
  domain : String
  label : String
  deriving DecidableEq, Repr, Inhabited

/-- Move a category and rename it; for the administrator. -/
structure UpdateCategoryAdmin where
  account : String
  domain : String
  label : String
  order : UInt32
  localizationKey : String
  deriving DecidableEq, Repr, Inhabited

/-- Mark an account as trusted or not; for the administrator. -/
structure SetAccountTrustedAdmin where
  account : String
  blogAccount : String
  isTrusted : Bool
  deriving DecidableEq, Repr, Inhabited

/-- Save a draft under an id that the account chooses. -/
structure UpsertDraft where
  account : String
  id : String
  title : String
  body : String
  jsonMetadata : String
  deriving DecidableEq, Repr, Inhabited

/-- Remove a draft. -/
structure RemoveDraft where
  account : String
  id : String
  deriving DecidableEq, Repr, Inhabited

/-- Mark one notification as read. -/
structure MarkNotificationRead where
  account : String
  id : Uuid
  deriving DecidableEq, Repr, Inhabited

/-- Mark all notifications of the account as read. -/
structure MarkAllNotificationsRead where
  account : String
  deriving DecidableEq, Repr, Inhabited

/-- Mark all notifications of the account as seen. -/
structure MarkAllNotificationsSeen where
  account : String
  deriving DecidableEq, Repr, Inhabited

/-- Change the settings that only the account sees. -/
structure UpdateProfileSettings where
  account : String
  enableEmailUnseenNotifications : Bool
  deriving DecidableEq, Repr, Inhabited

/-- Remember a device for push messages. -/
structure RegisterPushToken where
  account : String
  token : String
  deriving DecidableEq, Repr, Inhabited

/-- Downvote a post, giving a reason. -/
structure Downvote where
  account : String
  author : String
  permlink : String
  reason : String
  comment : String
  deriving DecidableEq, Repr, Inhabited

/-- Take a downvote back. -/
structure RemoveDownvote where
  account : String
  author : String
  permlink : String
  deriving DecidableEq, Repr, Inhabited

/-- The body of an operation of the given kind. -/
def Body : Kind → Type
  | .register => Register
  | .updateProfile => UpdateProfile
  | .follow => Follow
  | .unfollow => Unfollow
  | .uploadMedia => UploadMedia
  | .addToBlacklistAdmin => AddToBlacklistAdmin
  | .removeFromBlacklistAdmin => RemoveFromBlacklistAdmin
  | .addCategoryAdmin => AddCategoryAdmin
  | .removeCategoryAdmin => RemoveCategoryAdmin
  | .updateCategoryAdmin => UpdateCategoryAdmin
  | .setAccountTrustedAdmin => SetAccountTrustedAdmin
  | .upsertDraft => UpsertDraft
  | .removeDraft => RemoveDraft
  | .markNotificationRead => MarkNotificationRead
  | .markAllNotificationsRead => MarkAllNotificationsRead
  | .markAllNotificationsSeen => MarkAllNotificationsSeen
  | .updateProfileSettings => UpdateProfileSettings
  | .registerPushToken => RegisterPushToken
  | .downvote => Downvote
  | .removeDownvote => RemoveDownvote

instance (kind : Kind) : DecidableEq (Body kind) := by
  cases kind <;> (simp only [Body]; infer_instance)

/-- The account that claims to perform the operation. -/
def Body.account : {kind : Kind} → Body kind → String
  | .register, (body : Register) => body.account
  | .updateProfile, (body : UpdateProfile) => body.account
  | .follow, (body : Follow) => body.account
  | .unfollow, (body : Unfollow) => body.account
  | .uploadMedia, (body : UploadMedia) => body.account
  | .addToBlacklistAdmin, (body : AddToBlacklistAdmin) => body.account
  | .removeFromBlacklistAdmin, (body : RemoveFromBlacklistAdmin) => body.account
  | .addCategoryAdmin, (body : AddCategoryAdmin) => body.account
  | .removeCategoryAdmin, (body : RemoveCategoryAdmin) => body.account
  | .updateCategoryAdmin, (body : UpdateCategoryAdmin) => body.account
  | .setAccountTrustedAdmin, (body : SetAccountTrustedAdmin) => body.account
  | .upsertDraft, (body : UpsertDraft) => body.account
  | .removeDraft, (body : RemoveDraft) => body.account
  | .markNotificationRead, (body : MarkNotificationRead) => body.account
  | .markAllNotificationsRead, (body : MarkAllNotificationsRead) => body.account
  | .markAllNotificationsSeen, (body : MarkAllNotificationsSeen) => body.account
  | .updateProfileSettings, (body : UpdateProfileSettings) => body.account
  | .registerPushToken, (body : RegisterPushToken) => body.account
  | .downvote, (body : Downvote) => body.account
  | .removeDownvote, (body : RemoveDownvote) => body.account

end BlogGateway.Operation
