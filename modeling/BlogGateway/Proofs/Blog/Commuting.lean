/-
Operations of different accounts that do not see each other.

Ten kinds of operation are private: they look at what concerns their account alone, and change
nothing else.  Both halves are said with `SameFor`, which holds of two stores that agree on
what concerns an account.  A private operation leaves what concerns others the same, and from
two stores that are the same for its account it ends alike.

Two private operations of different accounts may then be applied in either order.  Each finds
the same whether the other has been applied or not, so it ends in the same way; and the two
stores at the end are the same for either account by the second half, for every other account
by the first, and in everything that no private operation writes.

What is remembered in one list for all accounts is compared place by place, so that stores
which are the same for all accounts also have the same order.
-/
import BlogGateway.Proofs.Blog.Privacy
import BlogGateway.Proofs.Blog.Reach

namespace BlogGateway.Blog

open Operation Std

/-! ### The notifications of an account in their places -/

/-- The notification, if the account is told. -/
def Notification.for? (account : String) (notification : Notification) : Option Notification :=
  if notification.account = account then some notification else none

/-- Changing notifications for an account comes to changing those that it is told. -/
theorem Notification.map_for?_map {change : Notification → Notification}
    (keeps : ∀ n, (change n).account = n.account) (account : String)
    (notifications : List Notification) :
    (notifications.map change).map (for? account)
      = (notifications.map (for? account)).map (Option.map change) := by
  simp only [List.map_map]
  refine List.map_congr_left fun n _ => ?_
  show for? account (change n) = (for? account n).map change
  unfold for?
  rw [keeps n]
  split <;> rfl

/-- Changing notifications of others leaves those of the account in their places. -/
theorem Notification.map_for?_map_of_untouched {change : Notification → Notification}
    {account : String} (keeps : ∀ n, (change n).account = n.account)
    (untouched : ∀ n, n.account = account → change n = n) (notifications : List Notification) :
    (notifications.map change).map (for? account) = notifications.map (for? account) := by
  rw [List.map_map]
  refine List.map_congr_left fun n _ => ?_
  show for? account (change n) = for? account n
  unfold for?
  rw [keeps n]
  split
  · rename_i own
    rw [untouched n own]
  · rfl

/-- Lists in which every account finds the same in the same places are the same. -/
theorem Notification.eq_of_map_for? {first second : List Notification}
    (same : ∀ account, first.map (for? account) = second.map (for? account)) :
    first = second := by
  induction first generalizing second with
  | nil => exact (List.map_eq_nil_iff.mp (same "").symm).symm
  | cons n rest ih =>
      cases second with
      | nil => exact absurd (same "") (by simp)
      | cons n' rest' =>
          have heads := (List.cons.inj (same n.account)).1
          have tails := ih fun account => (List.cons.inj (same account)).2
          simp only [for?, if_true] at heads
          split at heads
          · rw [Option.some.inj heads, tails]
          · cases heads

namespace Store

/-! ### What concerns an account -/

/-- What concerns the account is the same in both: what belongs to it, its profile, the
pictures that say that they are its own, and what it is told. -/
structure SameFor (account : String) (s t : Store) : Prop extends Spares account s t where
  profile : t.profiles[account]? = s.profiles[account]? := by rfl
  pictures : ∀ key : Owned, (t.media[key]?).filter (·.account = account)
    = (s.media[key]?).filter (·.account = account) := by exact fun _ => rfl
  notifications : t.notifications.map (Notification.for? account)
    = s.notifications.map (Notification.for? account) := by rfl

variable {account : String} {s t u : Store}

theorem SameFor.symm (same : SameFor account s t) : SameFor account t s where
  settings := same.settings.symm
  pushTokens token := (same.pushTokens token).symm
  media id := (same.media id).symm
  drafts id := (same.drafts id).symm
  follows := same.follows.symm
  downvotes := same.downvotes.symm
  profile := same.profile.symm
  pictures key := (same.pictures key).symm
  notifications := same.notifications.symm

theorem SameFor.trans (first : SameFor account s t) (second : SameFor account t u) :
    SameFor account s u where
  settings := second.settings.trans first.settings
  pushTokens token := (second.pushTokens token).trans (first.pushTokens token)
  media id := (second.media id).trans (first.media id)
  drafts id := (second.drafts id).trans (first.drafts id)
  follows := second.follows.trans first.follows
  downvotes := second.downvotes.trans first.downvotes
  profile := second.profile.trans first.profile
  pictures key := (second.pictures key).trans (first.pictures key)
  notifications := second.notifications.trans first.notifications

/-- What no private operation writes is the same in both. -/
structure SameBeside (s t : Store) : Prop where
  follows : t.follows = s.follows := by rfl
  blacklist : t.blacklist = s.blacklist := by rfl
  categories : t.categories = s.categories := by rfl
  downvotes : t.downvotes = s.downvotes := by rfl

theorem SameBeside.symm (same : SameBeside s t) : SameBeside t s :=
  ⟨same.follows.symm, same.blacklist.symm, same.categories.symm, same.downvotes.symm⟩

theorem SameBeside.trans (first : SameBeside s t) (second : SameBeside t u) : SameBeside s u where
  follows := second.follows.trans first.follows
  blacklist := second.blacklist.trans first.blacklist
  categories := second.categories.trans first.categories
  downvotes := second.downvotes.trans first.downvotes

/-- There is nothing in a store that neither concerns an account nor is shared by all. -/
theorem eq_of_sameFor (same : ∀ account, SameFor account s t) (beside : SameBeside s t) :
    s = t := by
  have profiles : s.profiles = t.profiles :=
    ExtTreeMap.ext_getElem? fun account => (same account).profile.symm
  have settings : s.settings = t.settings :=
    ExtTreeMap.ext_getElem? fun account => (same account).settings.symm
  have pushTokens : s.pushTokens = t.pushTokens :=
    ExtTreeSet.ext_mem fun key => ((same key.account).pushTokens key.name).symm
  have media : s.media = t.media :=
    ExtTreeMap.ext_getElem? fun key => ((same key.account).media key.name).symm
  have drafts : s.drafts = t.drafts :=
    ExtTreeMap.ext_getElem? fun key => ((same key.account).drafts key.name).symm
  have notifications : s.notifications = t.notifications :=
    Notification.eq_of_map_for? fun account => (same account).notifications.symm
  obtain ⟨follows, blacklist, categories, downvotes⟩ := beside
  cases s
  cases t
  simp_all only

/-! ### Private operations -/

/-- The operations that are about what concerns their account alone. -/
def IsPrivate (kind : Kind) : Prop :=
  kind ∈ [.register, .updateProfile, .updateProfileSettings, .registerPushToken, .uploadMedia,
    .upsertDraft, .removeDraft, .markNotificationRead, .markAllNotificationsRead,
    .markAllNotificationsSeen]

instance : DecidablePred IsPrivate := fun kind =>
  inferInstanceAs (Decidable (kind ∈ [_, _, _, _, _, _, _, _, _, _]))

variable {policy : Policy} {moment : Moment} {kind : Kind} {op : Body kind}

/-- Marking notifications of an account leaves those of others in their places. -/
theorem map_for?_mark {marker : String} (other : account ≠ marker)
    {wanted : Notification → Prop} [DecidablePred wanted] {change : Notification → Notification}
    (keeps : ∀ n, (change n).account = n.account) (own : ∀ n, wanted n → n.account = marker)
    (notifications : List Notification) :
    (notifications.map fun n => if wanted n then change n else n).map (Notification.for? account)
      = notifications.map (Notification.for? account) :=
  Notification.map_for?_map_of_untouched (Notification.account_marked keeps)
    (fun _ mine => Notification.marked_of_other other own mine) notifications

/-- A private operation leaves the same what concerns others. -/
theorem sameFor_of_does (does : Does policy moment s kind op t) (isPrivate : IsPrivate kind)
    (other : account ≠ op.account) : SameFor account s t := by
  have spared : Spares account s t := spares_of_does does other
  have profile : t.profiles[account]? = s.profiles[account]? := by
    refine (profile_of_does does other).resolve_right ?_
    rintro ⟨-, trusted, vouches, -⟩
    cases kind with
    | setAccountTrustedAdmin => exact absurd isPrivate (by decide)
    | _ => exact vouches
  cases does with
  | register | updateProfile | updateProfileSettings | registerPushToken | upsertDraft
  | removeDraft => exact { spared with profile := profile }
  | uploadMedia op known typed new decoded =>
      refine { spared with profile := profile, pictures := fun key => ?_ }
      rw [ExtTreeMap.getElem?_insert]
      split
      · rename_i is
        obtain rfl := LawfulEqOrd.eq_of_compare is
        have stranger : op.account ≠ account := other.symm
        rw [ExtTreeMap.getElem?_eq_none new]
        simp [stranger]
      · rfl
  | markNotificationRead op =>
      refine { spared with profile := profile, notifications := map_for?_mark other ?_ ?_ _ }
      · exact fun _ => rfl
      · intro n marked
        simp only [Bool.and_eq_true, decide_eq_true_eq] at marked
        exact marked.1
  | markAllNotificationsRead op =>
      refine { spared with profile := profile, notifications := map_for?_mark other ?_ ?_ _ }
      · exact fun _ => rfl
      · exact fun _ marked => marked
  | markAllNotificationsSeen op =>
      refine { spared with profile := profile, notifications := map_for?_mark other ?_ ?_ _ }
      · exact fun _ => rfl
      · exact fun _ marked => marked
  | follow | unfollow | addToBlacklist | removeFromBlacklist | addCategory | removeCategory
  | updateCategory | setAccountTrusted | castDownvote | removeDownvote =>
      exact absurd isPrivate (by decide)

/-- A private operation leaves the same what is shared by all. -/
theorem sameBeside_of_does (does : Does policy moment s kind op t) (isPrivate : IsPrivate kind) :
    SameBeside s t := by
  cases does with
  | follow | unfollow | addToBlacklist | removeFromBlacklist | addCategory | removeCategory
  | updateCategory | setAccountTrusted | castDownvote | removeDownvote =>
      exact absurd isPrivate (by decide)
  | _ => exact {}

theorem SameFor.checkPicture (same : SameFor account s t) (url : String) :
    t.checkPicture account url = s.checkPicture account url := by
  have pictures : t.media.values.filter (·.account = account)
      = s.media.values.filter (·.account = account) := filter_values_congr same.pictures
  have found := congrArg (List.find? fun media => media.url = url) pictures
  simp only [List.find?_filter, decide_eq_true_eq, Bool.decide_and] at found
  unfold Store.checkPicture
  rw [found]

/-- Changing notifications one by one does the same for an account that is told the same. -/
theorem SameFor.mark (same : SameFor account s t) (wanted : Notification → Bool)
    {change : Notification → Notification} (keeps : ∀ n, (change n).account = n.account) :
    EndAlike (SameFor account) (mark wanted change s) (mark wanted change t) := by
  have kept : ∀ n, (if wanted n then change n else n).account = n.account :=
    Notification.account_marked keeps
  refine .ok { same with notifications := ?_ }
  dsimp only
  rw [Notification.map_for?_map kept, Notification.map_for?_map kept, same.notifications]

theorem SameFor.updateProfile {op : UpdateProfile} (same : SameFor op.account s t) :
    EndAlike (SameFor op.account) (updateProfile op s) (updateProfile op t) := by
  unfold Store.updateProfile
  rw [same.profile, same.checkPicture op.avatarUrl, same.checkPicture op.coverUrl]
  split
  · exact .error _
  · refine .bind fun _ => .bind fun _ => ?_
    exact .ok { same with profile := getElem?_insert_congr same.profile _ _ }

theorem SameFor.uploadMedia {policy : Policy} {moment : Moment} {op : UploadMedia}
    (same : SameFor op.account s t) :
    EndAlike (SameFor op.account) (uploadMedia policy moment op s)
      (uploadMedia policy moment op t) := by
  have known : t.profiles.contains op.account = s.profiles.contains op.account := by
    rw [ExtTreeMap.contains_eq_isSome_getElem?, ExtTreeMap.contains_eq_isSome_getElem?,
      same.profile]
  have taken : t.media.contains ⟨op.account, Text.lowercase op.id⟩
      = s.media.contains ⟨op.account, Text.lowercase op.id⟩ := by
    rw [ExtTreeMap.contains_eq_isSome_getElem?, ExtTreeMap.contains_eq_isSome_getElem?,
      same.media]
  dsimp only [Store.uploadMedia]
  rw [known, taken]
  refine .unless fun _ => ?_
  split
  · exact .error _
  · refine .unless fun _ => ?_
    split
    · exact .error _
    · refine .ok { same with
        media := fun id => getElem?_insert_congr (same.media id) _ _
        pictures := fun key => ?_ }
      rw [ExtTreeMap.getElem?_insert, ExtTreeMap.getElem?_insert]
      split
      · rfl
      · exact same.pictures key

theorem SameFor.upsertDraft {moment : Moment} {op : UpsertDraft}
    (same : SameFor op.account s t) :
    EndAlike (SameFor op.account) (upsertDraft moment op s) (upsertDraft moment op t) := by
  refine .unless fun _ => ?_
  rw [same.drafts op.id]
  exact .ok { same with drafts := fun id => getElem?_insert_congr (same.drafts id) _ _ }

theorem SameFor.removeDraft {op : RemoveDraft} (same : SameFor op.account s t) :
    EndAlike (SameFor op.account) (removeDraft op s) (removeDraft op t) := by
  have kept : t.drafts.contains ⟨op.account, op.id⟩ = s.drafts.contains ⟨op.account, op.id⟩ := by
    rw [ExtTreeMap.contains_eq_isSome_getElem?, ExtTreeMap.contains_eq_isSome_getElem?,
      same.drafts]
  unfold Store.removeDraft
  rw [kept]
  refine .unless fun _ => .ok { same with drafts := fun id => ?_ }
  rw [ExtTreeMap.getElem?_erase, ExtTreeMap.getElem?_erase, same.drafts]

/-- From two stores that are the same for its account a private operation ends alike. -/
theorem endAlike_of_sameFor (policy : Policy) (moment : Moment) {kind : Kind} {op : Body kind}
    (isPrivate : IsPrivate kind) (same : SameFor op.account s t) :
    EndAlike (SameFor op.account) (apply policy moment kind op s)
      (apply policy moment kind op t) := by
  cases kind with
  | register =>
      exact .ok { same with
        profile := getElem?_insertIfNew_congr same.profile _ _
        settings := getElem?_insertIfNew_congr same.settings _ _ }
  | updateProfile => exact same.updateProfile
  | updateProfileSettings =>
      exact .ok { same with settings := getElem?_insert_congr same.settings _ _ }
  | registerPushToken =>
      refine .ok { same with pushTokens := fun token => ?_ }
      rw [ExtTreeSet.mem_insert, ExtTreeSet.mem_insert]
      exact or_congr_right (same.pushTokens token)
  | uploadMedia => exact same.uploadMedia
  | upsertDraft => exact same.upsertDraft
  | removeDraft => exact same.removeDraft
  | markNotificationRead => exact same.mark _ fun _ => rfl
  | markAllNotificationsRead => exact same.mark _ fun _ => rfl
  | markAllNotificationsSeen => exact same.mark _ fun _ => rfl
  | follow | unfollow | addToBlacklistAdmin | removeFromBlacklistAdmin | addCategoryAdmin
  | removeCategoryAdmin | updateCategoryAdmin | setAccountTrustedAdmin | downvote
  | removeDownvote => exact absurd isPrivate (by decide)

/-! ### Two operations -/

section Performed

variable (policy : Policy) (moment : Moment) {kind : Kind} {op : Body kind}

/-- Whether it succeeds or fails, a private operation leaves the same what concerns others. -/
theorem sameFor_perform (s : Store) (isPrivate : IsPrivate kind) (other : account ≠ op.account) :
    SameFor account s (s.perform policy moment kind op) :=
  perform_invariant {} fun does => sameFor_of_does does isPrivate other

theorem sameBeside_perform (s : Store) (isPrivate : IsPrivate kind) :
    SameBeside s (s.perform policy moment kind op) :=
  perform_invariant {} fun does => sameBeside_of_does does isPrivate

/-- A private operation gives the same result in stores that are the same for its account, and
they are still so afterwards. -/
theorem SameFor.perform (same : SameFor op.account s t) (isPrivate : IsPrivate kind) :
    (InPlace.apply policy moment kind op s).result
        = (InPlace.apply policy moment kind op t).result ∧
      SameFor op.account (s.perform policy moment kind op) (t.perform policy moment kind op) := by
  unfold Store.perform
  rw [InPlace.apply_eq_update]
  exact EndAlike.update same (endAlike_of_sameFor policy moment isPrivate same)

end Performed

/--
**Private operations of different accounts can be applied in either order.**

Each has the same result whether the other was applied before it or is applied afterwards, and
the stores at the end are equal.
-/
theorem private_commute (policy : Policy) (store : Store) (moment moment' : Moment)
    (kind kind' : Kind) (op : Body kind) (op' : Body kind') (isPrivate : IsPrivate kind)
    (isPrivate' : IsPrivate kind') (differ : op.account ≠ op'.account) :
    let first := store.perform policy moment kind op
    let first' := store.perform policy moment' kind' op'
    (InPlace.apply policy moment kind op store).result
        = (InPlace.apply policy moment kind op first').result ∧
    (InPlace.apply policy moment' kind' op' store).result
        = (InPlace.apply policy moment' kind' op' first).result ∧
    first.perform policy moment' kind' op' = first'.perform policy moment kind op := by
  intro first first'
  -- what either finds is the same whether the other has been applied or not
  have own : SameFor op.account store first' :=
    sameFor_perform policy moment' store isPrivate' differ
  have own' : SameFor op'.account store first :=
    sameFor_perform policy moment store isPrivate differ.symm
  obtain ⟨result, after⟩ := own.perform policy moment isPrivate
  obtain ⟨result', after'⟩ := own'.perform policy moment' isPrivate'
  refine ⟨result, result', eq_of_sameFor (fun account => ?_) ?_⟩
  · by_cases isOwn : account = op.account
    · subst isOwn
      have kept : SameFor op.account first (first.perform policy moment' kind' op') :=
        sameFor_perform policy moment' first isPrivate' differ
      exact kept.symm.trans after
    · by_cases isOwn' : account = op'.account
      · subst isOwn'
        have kept : SameFor op'.account first' (first'.perform policy moment kind op) :=
          sameFor_perform policy moment first' isPrivate differ.symm
        exact after'.symm.trans kept
      · have kept : SameFor account store (first.perform policy moment' kind' op') :=
          (sameFor_perform policy moment store isPrivate isOwn).trans
            (sameFor_perform policy moment' first isPrivate' isOwn')
        have kept' : SameFor account store (first'.perform policy moment kind op) :=
          (sameFor_perform policy moment' store isPrivate' isOwn').trans
            (sameFor_perform policy moment first' isPrivate isOwn)
        exact kept.symm.trans kept'
  · have kept : SameBeside store (first.perform policy moment' kind' op') :=
      (sameBeside_perform policy moment store isPrivate).trans
        (sameBeside_perform policy moment' first isPrivate')
    have kept' : SameBeside store (first'.perform policy moment kind op) :=
      (sameBeside_perform policy moment' store isPrivate').trans
        (sameBeside_perform policy moment first' isPrivate)
    exact kept.symm.trans kept'

/-- Alice and bob are registered, and bob has a draft. -/
private def bobDrafts : Store :=
  let alice := Store.empty.perform .default default .register ⟨"alice"⟩
  let both := alice.perform .default default .register ⟨"bob"⟩
  both.perform .default default .upsertDraft ⟨"bob", "first", "Title", "Body", "\x7b\x7d"⟩

/-- Alice stores a picture and bob writes his draft anew: both succeed in either order, and what
is left at the end has the picture and the new title. -/
theorem alice_and_bob_commute :
    let cat : UploadMedia := ⟨"alice", "cat", "AAEC", "image/png"⟩
    let draft : UpsertDraft := ⟨"bob", "first", "New title", "Body", "\x7b\x7d"⟩
    let first := bobDrafts.perform .default default .uploadMedia cat
    let first' := bobDrafts.perform .default default .upsertDraft draft
    (InPlace.apply .default default .uploadMedia cat bobDrafts).result.toOption = some () ∧
    (InPlace.apply .default default .uploadMedia cat bobDrafts).result
        = (InPlace.apply .default default .uploadMedia cat first').result ∧
    (InPlace.apply .default default .upsertDraft draft bobDrafts).result.toOption = some () ∧
    (InPlace.apply .default default .upsertDraft draft bobDrafts).result
        = (InPlace.apply .default default .upsertDraft draft first).result ∧
    first.perform .default default .upsertDraft draft
        = first'.perform .default default .uploadMedia cat ∧
    (first.perform .default default .upsertDraft draft).media.size = 1 ∧
    (first.perform .default default .upsertDraft draft).drafts.values.map Draft.title
        = ["New title"] := by
  intro cat draft first first'
  obtain ⟨result, result', final⟩ := private_commute .default bobDrafts default default
    .uploadMedia .upsertDraft cat draft (by decide) (by decide) (by decide)
  exact ⟨by decide +kernel, result, by decide +kernel, result', final, by decide +kernel,
    by decide +kernel⟩

end Store

end BlogGateway.Blog
