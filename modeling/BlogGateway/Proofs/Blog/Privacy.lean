/-
What is private to an account.

The drafts, the settings, the devices and the notifications of an account are for the account
alone.  `AlikeBut` says that two stores differ in nothing else.  Started from two such stores,
an operation of another account ends alike: it fails with the same error, or it succeeds and
leaves two stores that still differ only in what is private to the account.  And what another
account reads of its own is the same in both, as is everything that anyone may read.

Some operations do write what is private to another: a follow tells the followed account of
it.  They write the same into both stores, without a look at what stands there.
-/
import BlogGateway.Blog.View
import BlogGateway.Proofs.Blog.Isolation
import BlogGateway.Proofs.Blog.Maps

namespace BlogGateway.Blog

open Operation Std

theorem filter_filter_comm {α : Type} (p q : α → Bool) (items : List α) :
    (items.filter p).filter q = (items.filter q).filter p := by
  rw [List.filter_filter, List.filter_filter]
  exact List.filter_congr fun a _ => Bool.and_comm (q a) (p a)

/-! ### Drafts that differ for one account -/

/-- The drafts differ at most where they are named by the account and say that they belong to
it. -/
def DraftsAlikeBut (account : String) (d e : ExtTreeMap Owned Draft) : Prop :=
  ∀ key : Owned, d[key]? = e[key]? ∨ key.account = account ∧
    (∀ draft ∈ d[key]?, draft.account = account) ∧ ∀ draft ∈ e[key]?, draft.account = account

namespace DraftsAlikeBut

variable {account : String} {d e : ExtTreeMap Owned Draft}

/-- What others have drafted is the same. -/
theorem getElem? (alike : DraftsAlikeBut account d e) (key : Owned)
    (other : key.account ≠ account) : d[key]? = e[key]? :=
  (alike key).resolve_right fun own => other own.1

theorem insert (alike : DraftsAlikeBut account d e) (key : Owned) (draft : Draft) :
    DraftsAlikeBut account (d.insert key draft) (e.insert key draft) := by
  intro name
  by_cases is : compare key name = .eq
  · left
    rw [ExtTreeMap.getElem?_insert, ExtTreeMap.getElem?_insert, if_pos is, if_pos is]
  · rw [ExtTreeMap.getElem?_insert, ExtTreeMap.getElem?_insert, if_neg is, if_neg is]
    exact alike name

theorem erase (alike : DraftsAlikeBut account d e) (key : Owned) :
    DraftsAlikeBut account (d.erase key) (e.erase key) := by
  intro name
  by_cases is : compare key name = .eq
  · left
    rw [ExtTreeMap.getElem?_erase, ExtTreeMap.getElem?_erase, if_pos is, if_pos is]
  · rw [ExtTreeMap.getElem?_erase, ExtTreeMap.getElem?_erase, if_neg is, if_neg is]
    exact alike name

/-- Another account lists the same drafts. -/
theorem filter_values (alike : DraftsAlikeBut account d e) {other : String}
    (differs : other ≠ account) :
    d.values.filter (·.account = other) = e.values.filter (·.account = other) := by
  have none_of {o : Option Draft} (own : ∀ draft ∈ o, draft.account = account) :
      o.filter (·.account = other) = none := by
    refine Option.filter_eq_none_iff.mpr fun draft hmem => ?_
    simpa [own draft hmem] using differs.symm
  refine filter_values_congr fun key => ?_
  rcases alike key with same | ⟨-, first, second⟩
  · rw [same]
  · rw [none_of first, none_of second]

end DraftsAlikeBut

namespace Store

/-! ### Stores that differ for one account -/

/-- The stores differ in nothing but what is private to the account. -/
structure AlikeBut (account : String) (s t : Store) : Prop where
  profiles : s.profiles = t.profiles
  follows : s.follows = t.follows
  media : s.media = t.media
  blacklist : s.blacklist = t.blacklist
  categories : s.categories = t.categories
  downvotes : s.downvotes = t.downvotes
  settings : ∀ other, other ≠ account → s.settings[other]? = t.settings[other]?
  pushTokens : ∀ device : Owned, device.account ≠ account →
    (device ∈ s.pushTokens ↔ device ∈ t.pushTokens)
  drafts : DraftsAlikeBut account s.drafts t.drafts
  notifications : s.notifications.filter (·.account ≠ account)
    = t.notifications.filter (·.account ≠ account)

variable {account : String} {s t : Store}

/-- The second store is the first with other private rows. -/
theorem AlikeBut.eq_with (alike : AlikeBut account s t) :
    ∃ settings pushTokens drafts notifications, t = { s with
      settings := settings, pushTokens := pushTokens, drafts := drafts,
      notifications := notifications } := by
  obtain ⟨profiles, follows, media, blacklist, categories, downvotes, -, -, -, -⟩ := alike
  refine ⟨t.settings, t.pushTokens, t.drafts, t.notifications, ?_⟩
  rw [profiles, follows, media, blacklist, categories, downvotes]

/-! ### What others write -/

/-- Two changes end alike: with the same error, or with stores that are related. -/
inductive EndAlike (related : Store → Store → Prop) :
    Except Rpc.Error Store → Except Rpc.Error Store → Prop
  | ok {s t : Store} (alike : related s t) : EndAlike related (.ok s) (.ok t)
  | error (error : Rpc.Error) : EndAlike related (.error error) (.error error)

section EndAlike

variable {related : Store → Store → Prop}

/-- A check that decides the same for both leaves what follows it to compare. -/
theorem EndAlike.unless {c : Prop} [Decidable c] {error : Rpc.Error}
    {x y : Except Rpc.Error Store} (passed : ¬ c → EndAlike related x y) :
    EndAlike related (if c then .error error else x) (if c then .error error else y) := by
  by_cases h : c
  · rw [if_pos h, if_pos h]
    exact .error error
  · rw [if_neg h, if_neg h]
    exact passed h

theorem EndAlike.bind {α : Type} {first : Except Rpc.Error α}
    {f g : α → Except Rpc.Error Store} (next : ∀ a, EndAlike related (f a) (g a)) :
    EndAlike related (first >>= f) (first >>= g) := by
  cases first with
  | error error => exact .error error
  | ok a => exact next a

/-- Changes of related stores that end alike leave them related, also when they fail. -/
theorem EndAlike.update {change : Change} (before : related s t)
    (ends : EndAlike related (change s) (change t)) :
    (Run.update change s).result = (Run.update change t).result ∧
      related (Run.update change s).state (Run.update change t).state := by
  unfold Run.update
  generalize change s = x at ends ⊢
  generalize change t = y at ends ⊢
  cases ends with
  | ok after => exact ⟨rfl, after⟩
  | error error => exact ⟨rfl, before⟩

end EndAlike

/-- A change of the notifications, one by one, does not mix those of different accounts. -/
theorem AlikeBut.mark (alike : AlikeBut account s t) (wanted : Notification → Bool)
    {change : Notification → Notification}
    (keeps : ∀ notification, (change notification).account = notification.account) :
    EndAlike (AlikeBut account) (mark wanted change s) (mark wanted change t) := by
  have kept : ∀ n, (if wanted n then change n else n).account = n.account :=
    Notification.account_marked keeps
  refine .ok { alike with notifications := ?_ }
  simp only [List.filter_map, Function.comp_def, kept]
  rw [alike.notifications]

/-- When another's draft was made is looked up under its own name. -/
theorem AlikeBut.upsertDraft (alike : AlikeBut account s t) {moment : Moment} {op : UpsertDraft}
    (other : op.account ≠ account) :
    EndAlike (AlikeBut account) (upsertDraft moment op s) (upsertDraft moment op t) := by
  refine .unless fun _ => ?_
  rw [alike.drafts.getElem? ⟨op.account, op.id⟩ other]
  exact .ok { alike with drafts := alike.drafts.insert _ _ }

theorem AlikeBut.removeDraft (alike : AlikeBut account s t) {op : RemoveDraft}
    (other : op.account ≠ account) :
    EndAlike (AlikeBut account) (removeDraft op s) (removeDraft op t) := by
  have same : s.drafts.contains ⟨op.account, op.id⟩ = t.drafts.contains ⟨op.account, op.id⟩ := by
    rw [ExtTreeMap.contains_eq_isSome_getElem?, ExtTreeMap.contains_eq_isSome_getElem?,
      alike.drafts.getElem? ⟨op.account, op.id⟩ other]
  unfold Store.removeDraft
  rw [same]
  exact .unless fun _ => .ok { alike with drafts := alike.drafts.erase _ }

/-- Started from stores that differ in what is private to an account, an operation of another
account ends alike. -/
theorem alike_apply (policy : Policy) (moment : Moment) {kind : Kind} {op : Body kind}
    (alike : AlikeBut account s t) (other : op.account ≠ account) :
    EndAlike (AlikeBut account) (apply policy moment kind op s)
      (apply policy moment kind op t) := by
  obtain ⟨settings, pushTokens, drafts, notifications, rfl⟩ := alike.eq_with
  cases kind with
  | register =>
      exact .ok { alike with
        profiles := rfl
        settings := fun name h => getElem?_insertIfNew_congr (alike.settings name h) _ _ }
  | updateProfile =>
      dsimp only [apply, updateProfile]
      split
      · exact .error _
      · refine .bind fun _ => .bind fun _ => ?_
        exact .ok { alike with profiles := rfl }
  | setAccountTrustedAdmin =>
      refine .unless fun _ => ?_
      dsimp only
      split
      · exact .error _
      · exact .ok { alike with profiles := rfl }
  | follow =>
      refine .unless fun _ => .unless fun _ => .unless fun _ => ?_
      exact .ok { alike with
        follows := rfl
        notifications := by simp only [List.filter_append, alike.notifications] }
  | unfollow =>
      refine .ok { alike with follows := rfl, notifications := ?_ }
      dsimp only
      rw [filter_filter_comm, alike.notifications, filter_filter_comm]
  | uploadMedia =>
      refine .unless fun _ => ?_
      split
      · exact .error _
      · refine .unless fun _ => ?_
        split
        · exact .error _
        · exact .ok { alike with media := rfl }
  | addToBlacklistAdmin =>
      refine .unless fun _ => .unless fun _ => ?_
      exact .ok { alike with blacklist := rfl }
  | removeFromBlacklistAdmin =>
      refine .unless fun _ => .unless fun _ => ?_
      exact .ok { alike with blacklist := rfl }
  | addCategoryAdmin =>
      refine .unless fun _ => ?_
      split
      · exact .error _
      · refine .unless fun _ => ?_
        exact .ok { alike with categories := rfl }
  | removeCategoryAdmin =>
      refine .unless fun _ => ?_
      split
      · exact .error _
      · refine .unless fun _ => ?_
        exact .ok { alike with categories := rfl }
  | updateCategoryAdmin =>
      refine .unless fun _ => ?_
      split
      · exact .error _
      · dsimp only [category?]
        split
        · exact .error _
        · exact .ok { alike with categories := rfl }
  | upsertDraft => exact alike.upsertDraft other
  | removeDraft => exact alike.removeDraft other
  | markNotificationRead => exact alike.mark _ fun _ => rfl
  | markAllNotificationsRead => exact alike.mark _ fun _ => rfl
  | markAllNotificationsSeen => exact alike.mark _ fun _ => rfl
  | updateProfileSettings =>
      exact .ok { alike with
        settings := fun name h => getElem?_insert_congr (alike.settings name h) _ _ }
  | registerPushToken =>
      refine .ok { alike with pushTokens := fun device h => ?_ }
      rw [ExtTreeSet.mem_insert, ExtTreeSet.mem_insert]
      exact or_congr_right (alike.pushTokens device h)
  | downvote =>
      dsimp only [apply, castDownvote]
      split
      · exact .error _
      · exact .ok { alike with downvotes := rfl }
  | removeDownvote =>
      refine .unless fun _ => ?_
      exact .ok { alike with downvotes := rfl }

/-! ### What others read -/

/-- The part of a store that anyone may read. -/
def shared (store : Store) : Store :=
  { store with settings := ∅, pushTokens := ∅, drafts := ∅, notifications := [] }

theorem AlikeBut.shared (alike : AlikeBut account s t) : s.shared = t.shared := by
  obtain ⟨settings, pushTokens, drafts, notifications, rfl⟩ := alike.eq_with
  rfl

section Readers

variable {reader : String}

theorem AlikeBut.profileSettings (alike : AlikeBut account s t) (other : reader ≠ account) :
    s.profileSettings reader = t.profileSettings reader := by
  unfold Store.profileSettings
  rw [alike.settings reader other]

theorem AlikeBut.draft (alike : AlikeBut account s t) (other : reader ≠ account) (id : String) :
    s.draft reader id = t.draft reader id := by
  unfold Store.draft
  rw [alike.drafts.getElem? ⟨reader, id⟩ other]

theorem AlikeBut.draftsOf (alike : AlikeBut account s t) (other : reader ≠ account) :
    s.draftsOf reader = t.draftsOf reader := by
  unfold Store.draftsOf
  rw [alike.drafts.filter_values other]

theorem AlikeBut.notificationsOf (alike : AlikeBut account s t) (other : reader ≠ account)
    (policy : Policy) :
    s.notificationsOf policy reader = t.notificationsOf policy reader := by
  have own (items : List Notification) :
      items.filter (·.account = reader)
        = (items.filter (·.account ≠ account)).filter (·.account = reader) :=
    (filter_filter_of_imp (fun _ is => by simpa [of_decide_eq_true is] using other) items).symm
  unfold Store.notificationsOf
  rw [List.filter_reverse, List.filter_reverse, own s.notifications, own t.notifications,
    alike.notifications]

end Readers

end Store

end BlogGateway.Blog
