/-
The field rules of operations.

An operation that has the right layout and the right signature may still say something that
no reader of the blog could use: an empty name, a text that is too long, a picture that is
no picture.  The rules of a kind are a list of checks in the order of its fields, and the
first one that fails is reported.
-/
import BlogGateway.Bytes.Base64
import BlogGateway.Operation.Basic
import BlogGateway.Text.Blank
import BlogGateway.Uri.Check

namespace BlogGateway.Operation

/-- What is wrong with the value of a field. -/
inductive Reason
  | required
  | tooLong (limit : Nat)
  | sameAs (field : String)
  | notAlphanumeric
  | notUri
  | badUri (cause : Uri.Error)
  | notBase64
  | unknownOperation (tag : String)
  deriving DecidableEq, Repr

/-- The text of a reason. -/
def Reason.message : Reason → String
  | .required => "is required"
  | .tooLong limit => s!"must be at most {limit} characters"
  | .sameAs field => s!"must differ from {field}"
  | .notAlphanumeric => "must be alphanumeric"
  | .notUri => "must be a URI"
  | .badUri cause => s!"must be a URI: {cause.message}"
  | .notBase64 => "must be base64 encoded"
  | .unknownOperation tag => s!"{tag} operation is unknown"

/-- A field whose value breaks a rule. -/
structure FieldError where
  field : String
  reason : Reason
  deriving DecidableEq, Repr

/-- The text that reports a field. -/
def FieldError.message (error : FieldError) : String :=
  s!"{error.field}: {error.reason.message}"

/-- The outcome of a check. -/
abbrev Check := Except FieldError Unit

/-- Passes when the condition holds. -/
def demand (field : String) (holds : Bool) (reason : Reason) : Check :=
  if holds then .ok () else .error ⟨field, reason⟩

/-- A text has to be there. -/
def required (field value : String) : Check := demand field (value ≠ "") .required

/-- A text has at most so many characters. -/
def atMost (limit : Nat) (field value : String) : Check :=
  demand field (value.toList.length ≤ limit) (.tooLong limit)

/-- A text differs from the account that performs the operation. -/
def notAccount (field value account : String) : Check :=
  demand field (value ≠ account) (.sameAs "account")

/-- How many characters an id may have that a client chooses. -/
def idLimit : Nat := 16

/-- Whether a character is an ASCII letter or digit. -/
def isAlphanumeric (c : Char) : Bool := Text.isLetter c || Text.isDigit c

/-- An id that a client chooses: up to sixteen ASCII letters and digits. -/
def clientId (field value : String) : Check := do
  required field value
  atMost idLimit field value
  demand field (value.toList.all isAlphanumeric) .notAlphanumeric

/-- A link, or a path from the root, or nothing. -/
def optionalUri (field value : String) : Check :=
  match value.toList with
  | [] => .ok ()
  | '/' :: path =>
    demand field (!path.any fun c => Text.isBlank c || Text.isControl c) .notUri
  | _ => (Uri.check value).mapError fun cause => ⟨field, .badUri cause⟩

/-- A byte string in base 64. -/
def base64 (field value : String) : Check :=
  demand field (Base64.decode? (Bytes.ofText value)).isSome .notBase64

/-- The rules of a body of each kind. -/
def rules : (kind : Kind) → Body kind → Check
  | .register, (b : Register) => required "account" b.account
  | .updateProfile, (b : UpdateProfile) => do
    required "account" b.account
    atMost 50 "display_name" b.displayName
    atMost 25 "location" b.location
    atMost 160 "bio" b.bio
    optionalUri "avatar_url" b.avatarUrl
    optionalUri "cover_url" b.coverUrl
  | .follow, (b : Follow) => do
    required "account" b.account
    required "follow" b.follow
    notAccount "follow" b.follow b.account
  | .unfollow, (b : Unfollow) => do
    required "account" b.account
    required "unfollow" b.unfollow
    notAccount "unfollow" b.unfollow b.account
  | .uploadMedia, (b : UploadMedia) => do
    required "account" b.account
    clientId "id" b.id
    required "media" b.media
    base64 "media" b.media
    required "content_type" b.contentType
  | .addToBlacklistAdmin, (b : AddToBlacklistAdmin) => do
    required "account" b.account
    required "blog_account" b.blogAccount
    required "permlink" b.permlink
  | .removeFromBlacklistAdmin, (b : RemoveFromBlacklistAdmin) => do
    required "account" b.account
    required "blog_account" b.blogAccount
    required "permlink" b.permlink
  | .addCategoryAdmin, (b : AddCategoryAdmin) => do
    required "account" b.account
    required "domain" b.domain
    required "label" b.label
    required "localization_key" b.localizationKey
  | .removeCategoryAdmin, (b : RemoveCategoryAdmin) => do
    required "account" b.account
    required "domain" b.domain
    required "label" b.label
  | .updateCategoryAdmin, (b : UpdateCategoryAdmin) => do
    required "account" b.account
    required "domain" b.domain
    required "label" b.label
    required "localization_key" b.localizationKey
  | .setAccountTrustedAdmin, (b : SetAccountTrustedAdmin) => do
    required "account" b.account
    required "blog_account" b.blogAccount
  | .upsertDraft, (b : UpsertDraft) => do
    required "account" b.account
    clientId "id" b.id
    atMost 255 "title" b.title
    atMost 45000 "body" b.body
  | .removeDraft, (b : RemoveDraft) => do
    required "account" b.account
    clientId "id" b.id
  | .markNotificationRead, (b : MarkNotificationRead) => do
    required "account" b.account
    demand "id" (b.id ≠ Uuid.nil) .required
  | .markAllNotificationsRead, (b : MarkAllNotificationsRead) => required "account" b.account
  | .markAllNotificationsSeen, (b : MarkAllNotificationsSeen) => required "account" b.account
  | .updateProfileSettings, (b : UpdateProfileSettings) => required "account" b.account
  | .registerPushToken, (b : RegisterPushToken) => do
    required "account" b.account
    required "token" b.token
  | .downvote, (b : Downvote) => do
    required "account" b.account
    required "author" b.author
    required "permlink" b.permlink
    required "reason" b.reason
    atMost 500 "comment" b.comment
  | .removeDownvote, (b : RemoveDownvote) => do
    required "account" b.account
    required "author" b.author
    required "permlink" b.permlink

/-- Checks the field rules of an operation. -/
def validate : Operation → Check
  | .known kind body => rules kind body
  | .unknown tag _ => .error ⟨"type", .unknownOperation tag⟩

end BlogGateway.Operation
