/-
What is signed of a body.

The fields of a body are signed one behind the other, each as one item of the canonical bytes,
and nothing stands between them.  Which items these are is listed kind by kind and does not
follow from how the body is laid out in JSON; that the two agree is proved.
-/
import BlogGateway.Operation.Body
import BlogGateway.Wire

namespace BlogGateway.Operation

/-- The items that are signed of a body, in their order. -/
def signedItems : {kind : Kind} → Body kind → List Wire.Item
  | .register, (body : Register) => [.text body.account]
  | .updateProfile, (body : UpdateProfile) =>
    [.text body.account, .text body.displayName, .text body.location, .text body.bio,
     .text body.avatarUrl, .text body.coverUrl]
  | .follow, (body : Follow) => [.text body.account, .text body.follow]
  | .unfollow, (body : Unfollow) => [.text body.account, .text body.unfollow]
  | .uploadMedia, (body : UploadMedia) =>
    [.text body.account, .text body.id, .text body.media, .text body.contentType]
  | .addToBlacklistAdmin, (body : AddToBlacklistAdmin) =>
    [.text body.account, .text body.blogAccount, .text body.permlink]
  | .removeFromBlacklistAdmin, (body : RemoveFromBlacklistAdmin) =>
    [.text body.account, .text body.blogAccount, .text body.permlink]
  | .addCategoryAdmin, (body : AddCategoryAdmin) =>
    [.text body.account, .text body.domain, .text body.label, .text body.localizationKey]
  | .removeCategoryAdmin, (body : RemoveCategoryAdmin) =>
    [.text body.account, .text body.domain, .text body.label]
  | .updateCategoryAdmin, (body : UpdateCategoryAdmin) =>
    [.text body.account, .text body.domain, .text body.label, .uint32 body.order,
     .text body.localizationKey]
  | .setAccountTrustedAdmin, (body : SetAccountTrustedAdmin) =>
    [.text body.account, .text body.blogAccount, .flag body.isTrusted]
  | .upsertDraft, (body : UpsertDraft) =>
    [.text body.account, .text body.id, .text body.title, .text body.body,
     .text body.jsonMetadata]
  | .removeDraft, (body : RemoveDraft) => [.text body.account, .text body.id]
  | .markNotificationRead, (body : MarkNotificationRead) =>
    [.text body.account, .text body.id.text]
  | .markAllNotificationsRead, (body : MarkAllNotificationsRead) => [.text body.account]
  | .markAllNotificationsSeen, (body : MarkAllNotificationsSeen) => [.text body.account]
  | .updateProfileSettings, (body : UpdateProfileSettings) =>
    [.text body.account, .flag body.enableEmailUnseenNotifications]
  | .registerPushToken, (body : RegisterPushToken) => [.text body.account, .text body.token]
  | .downvote, (body : Downvote) =>
    [.text body.account, .text body.author, .text body.permlink, .text body.reason,
     .text body.comment]
  | .removeDownvote, (body : RemoveDownvote) =>
    [.text body.account, .text body.author, .text body.permlink]

/-- A body in the signed bytes. -/
def encodeBody (kind : Kind) (body : Body kind) : Bytes :=
  (signedItems body).flatMap Wire.Item.encode

end BlogGateway.Operation
