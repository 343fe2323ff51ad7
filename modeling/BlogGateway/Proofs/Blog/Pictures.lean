/-
Pictures, and the profiles that show them.

A picture is stored under its account and its id, and what else a picture says of itself
follows from the two: its link is made of them, and since no id holds a slash, the link can be
taken apart again.  So one link never stands for two pictures, whosoever they are, and it does
not matter in which order the pictures are looked through for the one with a link.

A profile shows nothing or pictures of its account.  That is checked when the link is set and
stays so, because a picture is never changed and never removed.
-/
import BlogGateway.Proofs.Blog.Follows
import BlogGateway.Proofs.Blog.Maps
import BlogGateway.Proofs.Operation.Ids

namespace BlogGateway.Blog

open Operation Std

/-! ### Links -/

/-- A text that ends in a word without slashes is split at its last slash in one way. -/
theorem split_at_last_slash {front front' word word' : List Char} (plain : '/' ∉ word)
    (plain' : '/' ∉ word') (same : front ++ '/' :: word = front' ++ '/' :: word') :
    front = front' ∧ word = word' := by
  rcases List.append_eq_append_iff.mp same with ⟨more, hfront, hword⟩ | ⟨more, hfront, hword⟩
  · cases more with
    | nil =>
        rw [List.append_nil] at hfront
        exact ⟨hfront.symm, (List.cons.inj hword).2⟩
    | cons c more =>
        have slash : '/' ∈ word := by
          rw [(List.cons.inj hword).2]
          simp
        exact absurd slash plain
  · cases more with
    | nil =>
        rw [List.append_nil] at hfront
        exact ⟨hfront, (List.cons.inj hword).2.symm⟩
    | cons c more =>
        have slash : '/' ∈ word' := by
          rw [(List.cons.inj hword).2]
          simp
        exact absurd slash plain'

/-- The link of a picture tells its account and its id. -/
theorem Store.mediaUrl_inj {policy : Policy} {account account' id id' : String}
    (plain : Alphanumeric id) (plain' : Alphanumeric id')
    (same : mediaUrl policy account id = mediaUrl policy account' id') :
    account = account' ∧ id = id' := by
  have chars := congrArg String.toList same
  simp only [mediaUrl, String.toList_append] at chars
  obtain ⟨front, word⟩ := split_at_last_slash plain.slash_notMem plain'.slash_notMem
    (by simpa using chars)
  exact ⟨String.toList_inj.mp (by simpa using front), String.toList_inj.mp word⟩

/-! ### Looking for the only one -/

section Listed

variable {α : Type} {wanted : α → Bool} {items items' : List α}

theorem find?_eq_some_iff_of_unique
    (unique : ∀ a ∈ items, ∀ b ∈ items, wanted a = true → wanted b = true → a = b) {a : α} :
    items.find? wanted = some a ↔ a ∈ items ∧ wanted a = true := by
  constructor
  · intro found
    exact ⟨List.mem_of_find?_eq_some found, List.find?_some found⟩
  · intro h
    obtain ⟨hmem, is⟩ := h
    cases found : items.find? wanted with
    | none => exact absurd is (List.find?_eq_none.mp found a hmem)
    | some b =>
        rw [unique b (List.mem_of_find?_eq_some found) a hmem (List.find?_some found) is]

/-- What is unique is found in any order. -/
theorem find?_perm (perm : items.Perm items')
    (unique : ∀ a ∈ items', ∀ b ∈ items', wanted a = true → wanted b = true → a = b) :
    items.find? wanted = items'.find? wanted := by
  have unique' : ∀ a ∈ items, ∀ b ∈ items, wanted a = true → wanted b = true → a = b :=
    fun a ha b hb => unique a (perm.mem_iff.mp ha) b (perm.mem_iff.mp hb)
  refine Option.ext fun a => ?_
  rw [find?_eq_some_iff_of_unique unique, find?_eq_some_iff_of_unique unique', perm.mem_iff]

end Listed

/-- The types that suit a profile. -/
theorem MediaType.text_of_suitsProfile {type : MediaType} (suits : type.suitsProfile = true) :
    type.text = "image/jpeg" ∨ type.text = "image/png" := by
  cases type with
  | jpeg => exact .inl rfl
  | png => exact .inr rfl
  | gif => cases suits

namespace Store

variable {policy : Policy} {moment : Moment} {store after later : Store} {kind : Kind}
  {op : Body kind} {account url : String} {owned owned' : Owned} {media media' : Media}

/-! ### A picture stays -/

/-- No operation changes or removes a picture. -/
theorem media_kept_of_does (does : Does policy moment store kind op after)
    (stored : store.media[owned]? = some media) : after.media[owned]? = some media := by
  cases does with
  | uploadMedia op known typed new decoded => exact getElem?_insert_of_new new stored
  | register | updateProfile | follow | unfollow | addToBlacklist | removeFromBlacklist
  | addCategory | removeCategory | updateCategory | setAccountTrusted | upsertDraft | removeDraft
  | markNotificationRead | markAllNotificationsRead | markAllNotificationsSeen
  | updateProfileSettings | registerPushToken | castDownvote | removeDownvote => exact stored

theorem Leads.media_kept (leads : Leads policy store later)
    (stored : store.media[owned]? = some media) : later.media[owned]? = some media :=
  leads.invariant stored fun stored _ does => media_kept_of_does does stored

/-! ### What pictures say of themselves, and what profiles show -/

/-- The picture says of itself where it is stored, and belongs to an account with a profile. -/
structure Filed (policy : Policy) (store : Store) (owned : Owned) (media : Media) : Prop where
  account : media.account = owned.account
  id : media.id = owned.name
  plain : Alphanumeric media.id
  lower : Text.lowercase media.id = media.id
  url : media.url = mediaUrl policy media.account media.id
  known : media.account ∈ store.profiles

/-- The link is empty, or that of a picture of the account that suits a profile. -/
def Shows (store : Store) (account url : String) : Prop :=
  url = "" ∨ ∃ media : Media, store.media[(⟨account, media.id⟩ : Owned)]? = some media ∧
    media.account = account ∧ media.url = url ∧ media.contentType.suitsProfile = true

/-- The profile is that of the account, and its links are in order. -/
structure Presents (store : Store) (account : String) (profile : Profile) : Prop where
  own : profile.account = account
  avatar : Shows store account profile.avatarUrl
  cover : Shows store account profile.coverUrl

/-- All pictures and all profiles are in order. -/
structure Tidy (policy : Policy) (store : Store) : Prop where
  filed : ∀ (owned : Owned) media, store.media[owned]? = some media →
    Filed policy store owned media
  presents : ∀ account profile, store.profiles[account]? = some profile →
    Presents store account profile

theorem Filed.eq_owned (filed : Filed policy store owned media) :
    owned = ⟨media.account, media.id⟩ := by
  obtain ⟨account, name⟩ := owned
  rw [filed.account, filed.id]

theorem Filed.of_does (filed : Filed policy store owned media)
    (does : Does policy moment store kind op after) : Filed policy after owned media :=
  { filed with known := mem_profiles_of_does does filed.known }

theorem Shows.of_does (shows : Shows store account url)
    (does : Does policy moment store kind op after) : Shows after account url := by
  rcases shows with none | ⟨media, stored, own, link, suits⟩
  · exact .inl none
  · exact .inr ⟨media, media_kept_of_does does stored, own, link, suits⟩

theorem Presents.of_does {profile : Profile} (presents : Presents store account profile)
    (does : Does policy moment store kind op after) : Presents after account profile where
  own := presents.own
  avatar := presents.avatar.of_does does
  cover := presents.cover.of_does does

namespace Tidy

/-- A link that passes the check shows a picture of the account. -/
theorem shows_of_checkPicture (tidy : Tidy policy store)
    (checked : store.checkPicture account url = .ok ()) : Shows store account url := by
  unfold checkPicture at checked
  split at checked
  · rename_i none
    exact .inl none
  · split at checked
    · cases checked
    · rename_i media found
      split at checked
      · rename_i suits
        have is := List.find?_some found
        simp only [Bool.and_eq_true, decide_eq_true_eq] at is
        obtain ⟨own, link⟩ := is
        obtain ⟨owned, stored⟩ := mem_values_iff.mp (List.mem_of_find?_eq_some found)
        rw [(tidy.filed owned media stored).eq_owned, own] at stored
        exact .inr ⟨media, stored, own, link, suits⟩
      · cases checked

/-- Every operation that keeps the rules leaves all in order.  What was in order stays so, and
what it writes is looked at in the operations that write pictures or profiles. -/
theorem of_does (tidy : Tidy policy store) (valid : rules kind op = .ok ())
    (does : Does policy moment store kind op after) : Tidy policy after := by
  have filed : ∀ (owned : Owned) media, store.media[owned]? = some media →
      Filed policy after owned media :=
    fun owned media stored => (tidy.filed owned media stored).of_does does
  have presents : ∀ account profile, store.profiles[account]? = some profile →
      Presents after account profile :=
    fun account profile found => (tidy.presents account profile found).of_does does
  cases does with
  | register op =>
      refine ⟨filed, fun account profile found => ?_⟩
      rcases of_getElem?_insertIfNew found with ⟨rfl, rfl⟩ | there
      · exact ⟨rfl, .inl rfl, .inl rfl⟩
      · exact presents account profile there
  | updateProfile op known avatar cover =>
      refine ⟨filed, fun account profile found => ?_⟩
      rcases of_getElem?_insert found with ⟨rfl, rfl⟩ | there
      · exact ⟨(presents _ _ known).own, tidy.shows_of_checkPicture avatar,
          tidy.shows_of_checkPicture cover⟩
      · exact presents account profile there
  | setAccountTrusted op admin known =>
      refine ⟨filed, fun account profile found => ?_⟩
      rcases of_getElem?_insert found with ⟨rfl, rfl⟩ | there
      · exact ⟨(presents _ _ known).own, (presents _ _ known).avatar,
          (presents _ _ known).cover⟩
      · exact presents account profile there
  | uploadMedia op known typed new decoded =>
      refine ⟨fun owned media found => ?_, presents⟩
      rcases of_getElem?_insert found with ⟨rfl, rfl⟩ | there
      · have plain := alphanumeric_of_rules valid
        exact ⟨rfl, rfl, plain.lowercase, plain.lowercase_lowercase, rfl, known⟩
      · exact filed owned media there
  | follow | unfollow | addToBlacklist | removeFromBlacklist | addCategory | removeCategory
  | updateCategory | upsertDraft | removeDraft | markNotificationRead | markAllNotificationsRead
  | markAllNotificationsSeen | updateProfileSettings | registerPushToken | castDownvote
  | removeDownvote => exact ⟨filed, presents⟩

theorem empty : Tidy policy .empty where
  filed := by
    intro owned media stored
    have absent : (Store.empty.media)[owned]? = none := ExtTreeMap.getElem?_empty
    rw [absent] at stored
    cases stored
  presents := by
    intro account profile found
    have absent : (Store.empty.profiles)[account]? = none := ExtTreeMap.getElem?_empty
    rw [absent] at found
    cases found

/-- A link stands for one picture. -/
theorem owned_eq_of_url (tidy : Tidy policy store) (stored : store.media[owned]? = some media)
    (stored' : store.media[owned']? = some media') (same : media.url = media'.url) :
    owned = owned' := by
  have filed := tidy.filed owned media stored
  have filed' := tidy.filed owned' media' stored'
  rw [filed.url, filed'.url] at same
  obtain ⟨account, id⟩ := mediaUrl_inj filed.plain filed'.plain same
  rw [filed.eq_owned, filed'.eq_owned, account, id]

/-- The picture with a link is found in whatever order the pictures are looked through. -/
theorem find?_values (tidy : Tidy policy store) {entries : List Media}
    (perm : entries.Perm store.media.values) (account url : String) :
    entries.find? (fun media => media.account = account && media.url = url)
      = store.media.values.find? fun media => media.account = account && media.url = url := by
  refine find?_perm perm ?_
  intro media hmem media' hmem' is is'
  simp only [Bool.and_eq_true, decide_eq_true_eq] at is is'
  obtain ⟨owned, stored⟩ := mem_values_iff.mp hmem
  obtain ⟨owned', stored'⟩ := mem_values_iff.mp hmem'
  obtain rfl := tidy.owned_eq_of_url stored stored' (is.2.trans is'.2.symm)
  exact Option.some.inj (stored.symm.trans stored')

end Tidy

/-- Operations that keep the rules lead from the empty store to tidy ones only. -/
theorem Leads.tidy (leads : Leads policy .empty store) : Tidy policy store :=
  leads.invariant .empty fun tidy valid does => tidy.of_does valid does

/--
**Pictures stay as they are, and profiles show pictures of their own account.**

Wherever operations that keep the field rules have led the blog to, a picture is stored under
its account and its id, which is in lower case; its account has a profile, and its link is made
of the two and belongs to no other picture.  Whatever operations come next, it stays as it is.
What a profile shows is nothing or a picture of its account that suits a profile, and the
picture with a link is found in whatever order the pictures are looked through.
-/
theorem Leads.pictures_in_order (leads : Leads policy .empty store) :
    (∀ (owned : Owned) media, store.media[owned]? = some media →
      owned = ⟨media.account, media.id⟩ ∧ Text.lowercase media.id = media.id ∧
      media.account ∈ store.profiles ∧
      media.url = policy.mediaBaseUrl ++ "/" ++ media.account ++ "/" ++ media.id) ∧
    (∀ (owned owned' : Owned) media media', store.media[owned]? = some media →
      store.media[owned']? = some media' → owned ≠ owned' → media.url ≠ media'.url) ∧
    (∀ later, Leads policy store later → ∀ (owned : Owned) media,
      store.media[owned]? = some media → later.media[owned]? = some media) ∧
    (∀ account profile, store.profiles[account]? = some profile →
      profile.account = account ∧ ∀ url ∈ [profile.avatarUrl, profile.coverUrl],
        url = "" ∨ ∃ media : Media, store.media[(⟨account, media.id⟩ : Owned)]? = some media ∧
          media.account = account ∧ media.url = url ∧
          (media.contentType.text = "image/jpeg" ∨ media.contentType.text = "image/png")) ∧
    ∀ entries : List Media, entries.Perm store.media.values → ∀ account url,
      entries.find? (fun media => media.account = account && media.url = url)
        = store.media.values.find? fun media => media.account = account && media.url = url := by
  have tidy := leads.tidy
  refine ⟨?_, ?_, ?_, ?_, ?_⟩
  · intro owned media stored
    have filed := tidy.filed owned media stored
    exact ⟨filed.eq_owned, filed.lower, filed.known, filed.url⟩
  · intro owned owned' media media' stored stored' different same
    exact different (tidy.owned_eq_of_url stored stored' same)
  · intro later leads' owned media stored
    exact leads'.media_kept stored
  · intro account profile found
    have presents := tidy.presents account profile found
    have shown : ∀ url, Shows store account url →
        url = "" ∨ ∃ media : Media, store.media[(⟨account, media.id⟩ : Owned)]? = some media ∧
          media.account = account ∧ media.url = url ∧
          (media.contentType.text = "image/jpeg" ∨ media.contentType.text = "image/png") := by
      intro url shows
      refine shows.imp_right ?_
      rintro ⟨media, stored, own, link, suits⟩
      exact ⟨media, stored, own, link, MediaType.text_of_suitsProfile suits⟩
    simp only [List.forall_mem_cons, List.not_mem_nil, false_implies, implies_true, and_true]
    exact ⟨presents.own, shown _ presents.avatar, shown _ presents.cover⟩
  · intro entries perm account url
    exact tidy.find?_values perm account url

/-- A blog that serves its pictures itself. -/
private def selfServed : Policy := { Policy.default with mediaBaseUrl := "/media" }

/-- Alice stores a picture and shows it, and then tries one of the same id and stores one of
nearly the same; bob stores one of the first id in other letters. -/
private def threePictures : Store :=
  Store.empty
    |>.perform selfServed default .register (⟨"alice"⟩ : Register)
    |>.perform selfServed default .register (⟨"bob"⟩ : Register)
    |>.perform selfServed default .uploadMedia
      (⟨"alice", "Cat1", "aGk=", "image/png"⟩ : UploadMedia)
    |>.perform selfServed default .updateProfile
      (⟨"alice", "Alice", "", "", "/media/alice/cat1", ""⟩ : UpdateProfile)
    |>.perform selfServed default .uploadMedia
      (⟨"alice", "CAT1", "aGhp", "image/gif"⟩ : UploadMedia)
    |>.perform selfServed default .uploadMedia
      (⟨"alice", "cat10", "aGhp", "image/gif"⟩ : UploadMedia)
    |>.perform selfServed default .uploadMedia
      (⟨"bob", "CAT1", "aGhp", "image/gif"⟩ : UploadMedia)

private theorem leads_threePictures : Leads selfServed .empty threePictures :=
  ((((((Leads.refl.perform _ _ _ rfl).perform _ _ _ rfl).perform _ _ _ rfl).perform
    _ _ _ (Except.eq_ok_of_toOption (by decide +kernel))).perform _ _ _ rfl).perform
    _ _ _ rfl).perform _ _ _ rfl

/-- Alice's second picture was refused, and her profile shows the first. -/
theorem cat_shown_by_alice :
    Leads selfServed .empty threePictures ∧
    threePictures.media.toList.map Prod.fst
      = [⟨"alice", "cat1"⟩, ⟨"alice", "cat10"⟩, ⟨"bob", "cat1"⟩] ∧
    (threePictures.profiles["alice"]?).map Profile.avatarUrl = some "/media/alice/cat1" ∧
    ∃ media : Media, threePictures.media[(⟨"alice", media.id⟩ : Owned)]? = some media ∧
      media.url = "/media/alice/cat1" ∧
      (media.contentType.text = "image/jpeg" ∨ media.contentType.text = "image/png") := by
  have shown : (threePictures.profiles["alice"]?).map Profile.avatarUrl
      = some "/media/alice/cat1" := by decide +kernel
  refine ⟨leads_threePictures, by decide +kernel, shown, ?_⟩
  obtain ⟨profile, found, avatar⟩ := Option.map_eq_some_iff.mp shown
  obtain ⟨-, -, -, profiles, -⟩ := Leads.pictures_in_order leads_threePictures
  obtain ⟨-, links⟩ := profiles "alice" profile found
  rcases links profile.avatarUrl (by simp) with none | ⟨media, stored, -, link, type⟩
  · rw [avatar] at none
    exact absurd none (by decide)
  · exact ⟨media, stored, link.trans avatar, type⟩

end Store

end BlogGateway.Blog
