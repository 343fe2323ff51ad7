/-
How the body of each kind is laid out.

One description serves reading and writing alike: the fields in their order, each with its
name and its type, and how a body is taken apart into them and put together again.  What is
read, written and defaulted follows from the types alone, so the two cannot disagree about the
order of fields or leave one out.
-/
import BlogGateway.Json.Record
import BlogGateway.Json.Value
import BlogGateway.Operation.Body

namespace BlogGateway.Operation

open Json

/-- The types that a field can have. -/
inductive FieldType
  | text
  | number
  | flag
  | uuid
  deriving DecidableEq, Repr

namespace FieldType

/-- The values of a field. -/
def Val : FieldType → Type
  | .text => String
  | .number => UInt32
  | .flag => Bool
  | .uuid => Uuid

/-- The value of a field that is left out. -/
def zero : (type : FieldType) → type.Val
  | .text => ""
  | .number => (0 : UInt32)
  | .flag => false
  | .uuid => Uuid.nil

/-- Reads an identifier from a JSON string. -/
def readUuid : Reader Uuid := fun s => do
  let (spelling, s) ← readString "a formatted UUID string" s
  match Uuid.ofText? spelling with
  | some id => pure (id, s)
  | none => .error (.rule "UUID parsing failed")

/-- Reads the value of a field from JSON. -/
def read : (type : FieldType) → Reader type.Val
  | .text => readString "a string"
  | .number => readUInt32
  | .flag => readBool
  | .uuid => readUuid

/-- The value of a field as JSON. -/
def write : (type : FieldType) → type.Val → Bytes
  | .text, (value : String) => writeText value
  | .number, (value : UInt32) => Bytes.ofText (toString value.toNat)
  | .flag, (value : Bool) => writeBool value
  | .uuid, (value : Uuid) => writeText value.text

end FieldType

/-- A field of a body. -/
structure FieldSpec where
  name : String
  type : FieldType
  deriving DecidableEq, Repr

/-- The field as a record reads it: it may be left out in both forms. -/
def FieldSpec.field (spec : FieldSpec) : Field :=
  ⟨spec.name, spec.type.Val, spec.type.read, some spec.type.zero, some spec.type.zero⟩

/-- The values of the fields of a body. -/
abbrev FieldValues (specs : List FieldSpec) : Type := Values (specs.map FieldSpec.field)

/-- The members of a body as JSON, with the closing brace. -/
def writeFields : Bool → (specs : List FieldSpec) → FieldValues specs → Bytes
  | _, [], _ => [Ascii.closeBrace]
  | first, spec :: specs, (value, values) =>
    (if first then [] else [Ascii.comma]) ++ writeText spec.name
      ++ Ascii.colon :: spec.type.write value ++ writeFields false specs values

/-- How bodies of one type are laid out. -/
structure Layout (β : Type) where
  /-- The name that errors give to the record. -/
  name : String
  fields : List FieldSpec
  toValues : β → FieldValues fields
  ofValues : FieldValues fields → β
  ofValues_toValues : ∀ body, ofValues (toValues body) = body := by intro body; rfl
  toValues_ofValues : ∀ values, toValues (ofValues values) = values := by intro values; rfl

/-- A field that holds text. -/
def textField (name : String) : FieldSpec := ⟨name, .text⟩

/-- The layout of each kind of body. -/
def layout : (kind : Kind) → Layout (Body kind)
  | .register =>
    { name := "RegisterOperation"
      fields := [textField "account"]
      toValues := fun (body : Register) => (body.account, ())
      ofValues := fun (account, _) => (⟨account⟩ : Register) }
  | .updateProfile =>
    { name := "UpdateProfileOperation"
      fields :=
        [textField "account", textField "display_name", textField "location", textField "bio",
         textField "avatar_url", textField "cover_url"]
      toValues := fun (body : UpdateProfile) =>
        (body.account, body.displayName, body.location, body.bio, body.avatarUrl, body.coverUrl,
         ())
      ofValues := fun (account, displayName, location, bio, avatarUrl, coverUrl, _) =>
        (⟨account, displayName, location, bio, avatarUrl, coverUrl⟩ : UpdateProfile) }
  | .follow =>
    { name := "FollowOperation"
      fields := [textField "account", textField "follow"]
      toValues := fun (body : Follow) => (body.account, body.follow, ())
      ofValues := fun (account, follow, _) => (⟨account, follow⟩ : Follow) }
  | .unfollow =>
    { name := "UnfollowOperation"
      fields := [textField "account", textField "unfollow"]
      toValues := fun (body : Unfollow) => (body.account, body.unfollow, ())
      ofValues := fun (account, unfollow, _) => (⟨account, unfollow⟩ : Unfollow) }
  | .uploadMedia =>
    { name := "UploadMediaOperation"
      fields := [textField "account", textField "id", textField "media", textField "content_type"]
      toValues := fun (body : UploadMedia) =>
        (body.account, body.id, body.media, body.contentType, ())
      ofValues := fun (account, id, media, contentType, _) =>
        (⟨account, id, media, contentType⟩ : UploadMedia) }
  | .addToBlacklistAdmin =>
    { name := "AddToBlacklistAdminOperation"
      fields := [textField "account", textField "blog_account", textField "permlink"]
      toValues := fun (body : AddToBlacklistAdmin) =>
        (body.account, body.blogAccount, body.permlink, ())
      ofValues := fun (account, blogAccount, permlink, _) =>
        (⟨account, blogAccount, permlink⟩ : AddToBlacklistAdmin) }
  | .removeFromBlacklistAdmin =>
    { name := "RemoveFromBlacklistAdminOperation"
      fields := [textField "account", textField "blog_account", textField "permlink"]
      toValues := fun (body : RemoveFromBlacklistAdmin) =>
        (body.account, body.blogAccount, body.permlink, ())
      ofValues := fun (account, blogAccount, permlink, _) =>
        (⟨account, blogAccount, permlink⟩ : RemoveFromBlacklistAdmin) }
  | .addCategoryAdmin =>
    { name := "AddCategoryAdminOperation"
      fields :=
        [textField "account", textField "domain", textField "label", textField
         "localization_key"]
      toValues := fun (body : AddCategoryAdmin) =>
        (body.account, body.domain, body.label, body.localizationKey, ())
      ofValues := fun (account, domain, label, localizationKey, _) =>
        (⟨account, domain, label, localizationKey⟩ : AddCategoryAdmin) }
  | .removeCategoryAdmin =>
    { name := "RemoveCategoryAdminOperation"
      fields := [textField "account", textField "domain", textField "label"]
      toValues := fun (body : RemoveCategoryAdmin) => (body.account, body.domain, body.label, ())
      ofValues := fun (account, domain, label, _) =>
        (⟨account, domain, label⟩ : RemoveCategoryAdmin) }
  | .updateCategoryAdmin =>
    { name := "UpdateCategoryAdminOperation"
      fields :=
        [textField "account", textField "domain", textField "label", ⟨"order", .number⟩,
         textField "localization_key"]
      toValues := fun (body : UpdateCategoryAdmin) =>
        (body.account, body.domain, body.label, body.order, body.localizationKey, ())
      ofValues := fun (account, domain, label, order, localizationKey, _) =>
        (⟨account, domain, label, order, localizationKey⟩ : UpdateCategoryAdmin) }
  | .setAccountTrustedAdmin =>
    { name := "SetAccountTrustedAdminOperation"
      fields := [textField "account", textField "blog_account", ⟨"is_trusted", .flag⟩]
      toValues := fun (body : SetAccountTrustedAdmin) =>
        (body.account, body.blogAccount, body.isTrusted, ())
      ofValues := fun (account, blogAccount, isTrusted, _) =>
        (⟨account, blogAccount, isTrusted⟩ : SetAccountTrustedAdmin) }
  | .upsertDraft =>
    { name := "UpsertDraftOperation"
      fields :=
        [textField "account", textField "id", textField "title", textField "body", textField
         "json_metadata"]
      toValues := fun (body : UpsertDraft) =>
        (body.account, body.id, body.title, body.body, body.jsonMetadata, ())
      ofValues := fun (account, id, title, body, jsonMetadata, _) =>
        (⟨account, id, title, body, jsonMetadata⟩ : UpsertDraft) }
  | .removeDraft =>
    { name := "RemoveDraftOperation"
      fields := [textField "account", textField "id"]
      toValues := fun (body : RemoveDraft) => (body.account, body.id, ())
      ofValues := fun (account, id, _) => (⟨account, id⟩ : RemoveDraft) }
  | .markNotificationRead =>
    { name := "MarkNotificationReadOperation"
      fields := [textField "account", ⟨"id", .uuid⟩]
      toValues := fun (body : MarkNotificationRead) => (body.account, body.id, ())
      ofValues := fun (account, id, _) => (⟨account, id⟩ : MarkNotificationRead) }
  | .markAllNotificationsRead =>
    { name := "MarkAllNotificationsReadOperation"
      fields := [textField "account"]
      toValues := fun (body : MarkAllNotificationsRead) => (body.account, ())
      ofValues := fun (account, _) => (⟨account⟩ : MarkAllNotificationsRead) }
  | .markAllNotificationsSeen =>
    { name := "MarkAllNotificationsSeenOperation"
      fields := [textField "account"]
      toValues := fun (body : MarkAllNotificationsSeen) => (body.account, ())
      ofValues := fun (account, _) => (⟨account⟩ : MarkAllNotificationsSeen) }
  | .updateProfileSettings =>
    { name := "UpdateProfileSettingsOperation"
      fields := [textField "account", ⟨"enable_email_unseen_notifications", .flag⟩]
      toValues := fun (body : UpdateProfileSettings) =>
        (body.account, body.enableEmailUnseenNotifications, ())
      ofValues := fun (account, enableEmailUnseenNotifications, _) =>
        (⟨account, enableEmailUnseenNotifications⟩ : UpdateProfileSettings) }
  | .registerPushToken =>
    { name := "RegisterPushTokenOperation"
      fields := [textField "account", textField "token"]
      toValues := fun (body : RegisterPushToken) => (body.account, body.token, ())
      ofValues := fun (account, token, _) => (⟨account, token⟩ : RegisterPushToken) }
  | .downvote =>
    { name := "DownvoteOperation"
      fields :=
        [textField "account", textField "author", textField "permlink", textField "reason",
         textField "comment"]
      toValues := fun (body : Downvote) =>
        (body.account, body.author, body.permlink, body.reason, body.comment, ())
      ofValues := fun (account, author, permlink, reason, comment, _) =>
        (⟨account, author, permlink, reason, comment⟩ : Downvote) }
  | .removeDownvote =>
    { name := "RemoveDownvoteOperation"
      fields := [textField "account", textField "author", textField "permlink"]
      toValues := fun (body : RemoveDownvote) => (body.account, body.author, body.permlink, ())
      ofValues := fun (account, author, permlink, _) =>
        (⟨account, author, permlink⟩ : RemoveDownvote) }

/-- Reads a body of the given kind. -/
def readBody (kind : Kind) : Reader (Body kind) := fun s => do
  let (values, s) ← readRecord (layout kind).name ((layout kind).fields.map FieldSpec.field) s
  pure ((layout kind).ofValues values, s)

/-- A body as JSON. -/
def writeBody (kind : Kind) (body : Body kind) : Bytes :=
  Ascii.openBrace :: writeFields true (layout kind).fields ((layout kind).toValues body)

end BlogGateway.Operation
