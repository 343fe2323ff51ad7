/-
What an account can do to others.

Everything that the blog remembers belongs to an account, except for what the administrator
decides: who is trusted, which posts are hidden, and the categories.  `Spares` says that what
belongs to an account is the same in two stores, `Informs` what may become of its
notifications, and `Vouches` what may become of its profile.  Each is shown by a look at the
store that every kind of operation leaves.

A component that an operation does not write is the same by definition, which is what the
fields of `Spares` assume unless told otherwise; so a case names no more than what the
operation writes.
-/
import BlogGateway.Blog.View
import BlogGateway.Proofs.Blog.Changes
import BlogGateway.Rpc.Run

namespace BlogGateway.Blog

open Operation Std

/-! ### Parts of lists that a change leaves alone -/

/-- What is thrown out before does not matter when it would not be kept anyway. -/
theorem filter_filter_of_imp {α : Type} {p q : α → Bool} (h : ∀ a, q a = true → p a = true)
    (items : List α) : (items.filter p).filter q = items.filter q := by
  rw [List.filter_filter]
  refine List.filter_congr fun a _ => ?_
  cases hq : q a with
  | false => rfl
  | true => rw [h a hq]; rfl

/-- A change of some items leaves those alone that it neither concerns nor moves. -/
theorem filter_map_of_untouched {α : Type} {q : α → Bool} {f : α → α}
    (keeps : ∀ a, q (f a) = q a) (untouched : ∀ a, q a = true → f a = a) (items : List α) :
    (items.map f).filter q = items.filter q := by
  induction items with
  | nil => rfl
  | cons a rest ih =>
      rw [List.map_cons, List.filter_cons, List.filter_cons, keeps, ih]
      cases hq : q a with
      | false => rfl
      | true => rw [untouched a hq]

section Marks

variable {wanted : Notification → Prop} [DecidablePred wanted]
  {change : Notification → Notification}

/-- Marking notifications hands none of them to another account. -/
theorem Notification.account_marked (keeps : ∀ n, (change n).account = n.account)
    (n : Notification) : (if wanted n then change n else n).account = n.account := by
  split
  · exact keeps n
  · rfl

/-- Marking notifications of one account does not touch those of another. -/
theorem Notification.marked_of_other {account marker : String} (other : account ≠ marker)
    (own : ∀ n, wanted n → n.account = marker) {n : Notification} (mine : n.account = account) :
    (if wanted n then change n else n) = n := by
  refine if_neg fun marked => other ?_
  rw [← mine, own n marked]

end Marks

theorem Downvote.filter_put {downvote : Downvote} {account : String}
    (other : account ≠ downvote.account) (downvotes : List Downvote) :
    (downvote.put downvotes).filter (·.account = account)
      = downvotes.filter (·.account = account) := by
  induction downvotes with
  | nil => simp [put, other.symm]
  | cons first rest ih =>
      rw [put]
      split
      · rename_i same
        have cast : first.account = downvote.account := by
          simp only [isCast, Bool.and_eq_true, decide_eq_true_eq] at same
          exact same.1
        simp [cast, other.symm]
      · rw [List.filter_cons, List.filter_cons, ih]

namespace Store

/-! ### What belongs to an account -/

/-- The notifications of an account, oldest first. -/
def notificationsTo (store : Store) (account : String) : List Notification :=
  store.notifications.filter (·.account = account)

/-- What belongs to the account is the same afterwards: its settings, devices, pictures and
drafts, whom it follows, and its downvotes. -/
structure Spares (account : String) (before after : Store) : Prop where
  settings : after.settings[account]? = before.settings[account]? := by rfl
  pushTokens : ∀ token,
    (⟨account, token⟩ : Owned) ∈ after.pushTokens ↔ (⟨account, token⟩ : Owned) ∈ before.pushTokens
    := by exact fun _ => Iff.rfl
  media : ∀ id, after.media[(⟨account, id⟩ : Owned)]? = before.media[(⟨account, id⟩ : Owned)]?
    := by exact fun _ => rfl
  drafts : ∀ id, after.drafts[(⟨account, id⟩ : Owned)]? = before.drafts[(⟨account, id⟩ : Owned)]?
    := by exact fun _ => rfl
  follows : after.follows.filter (·.follower = account)
    = before.follows.filter (·.follower = account) := by rfl
  downvotes : after.downvotes.filter (·.account = account)
    = before.downvotes.filter (·.account = account) := by rfl

/-- What may become of the notifications of an account through an operation of another: a
follow may add one that names the follower, and the end of a follow takes exactly those
away. -/
def Informs : (kind : Kind) → Body kind → String → List Notification → List Notification → Prop
  | .follow, (op : Follow), account, before, after =>
    after = before ∨ op.follow = account ∧ ∃ notification : Notification,
      notification.account = account ∧ notification.notice = .startedFollow op.account ∧
        after = before ++ [notification]
  | .unfollow, (op : Unfollow), account, before, after =>
    after = if op.unfollow = account then
        before.filter fun notification => notification.notice ≠ .startedFollow op.account
      else before
  | _, _, _, before, after => after = before

/-- The operation decides whether the account is trusted. -/
def Vouches : (kind : Kind) → Body kind → String → Bool → Prop
  | .setAccountTrustedAdmin, (op : SetAccountTrustedAdmin), account, trusted =>
    op.blogAccount = account ∧ op.isTrusted = trusted
  | _, _, _, _ => False

variable {policy : Policy} {moment : Moment} {store after : Store} {kind : Kind}
  {op : Body kind} {account : String}

/-! ### What a change that succeeds does to others -/

theorem spares_of_does (does : Does policy moment store kind op after)
    (other : account ≠ op.account) : Spares account store after := by
  have away {name name' : String} : (⟨op.account, name⟩ : Owned) ≠ ⟨account, name'⟩ := by
    intro h
    exact other (congrArg Owned.account h).symm
  cases does with
  | register op =>
      exact { settings := by
                rw [ExtTreeMap.getElem?_insertIfNew, if_neg]
                intro h
                exact other (LawfulEqOrd.eq_of_compare h.1).symm }
  | updateProfileSettings op =>
      exact { settings := by
                rw [ExtTreeMap.getElem?_insert, if_neg]
                intro h
                exact other (LawfulEqOrd.eq_of_compare h).symm }
  | registerPushToken op =>
      exact { pushTokens := by
                intro token
                rw [ExtTreeSet.mem_insert, LawfulEqCmp.compare_eq_iff_eq]
                exact or_iff_right away }
  | uploadMedia op =>
      exact { media := by
                intro id
                rw [ExtTreeMap.getElem?_insert, if_neg]
                exact mt LawfulEqOrd.eq_of_compare away }
  | upsertDraft op =>
      exact { drafts := by
                intro id
                rw [ExtTreeMap.getElem?_insert, if_neg]
                exact mt LawfulEqOrd.eq_of_compare away }
  | removeDraft op =>
      exact { drafts := by
                intro id
                rw [ExtTreeMap.getElem?_erase, if_neg]
                exact mt LawfulEqOrd.eq_of_compare away }
  | follow op =>
      have hop : op.account ≠ account := other.symm
      exact { follows := by simp [hop] }
  | unfollow op =>
      refine { follows := filter_filter_of_imp ?_ _ }
      intro following own
      simp only [decide_eq_true_eq] at own ⊢
      intro same
      rw [same] at own
      exact other own.symm
  | castDownvote op =>
      exact { downvotes := Downvote.filter_put other _ }
  | removeDownvote op =>
      refine { downvotes := filter_filter_of_imp ?_ _ }
      intro downvote own
      simp only [decide_eq_true_eq] at own
      have hop : account ≠ op.account := other
      simp [Downvote.isCast, own, hop]
  | updateProfile | addToBlacklist | removeFromBlacklist | addCategory | removeCategory
  | updateCategory | setAccountTrusted | markNotificationRead | markAllNotificationsRead
  | markAllNotificationsSeen => exact {}

/-- Marking notifications of another account leaves those of this one alone. -/
private theorem notificationsTo_mark {marker : String} (other : account ≠ marker)
    {wanted : Notification → Prop} [DecidablePred wanted] (change : Notification → Notification)
    (keeps : ∀ n, (change n).account = n.account) (own : ∀ n, wanted n → n.account = marker) :
    notificationsTo { store with
        notifications := store.notifications.map fun n => if wanted n then change n else n } account
      = store.notificationsTo account := by
  refine filter_map_of_untouched (fun n => ?_) (fun n mine => ?_) store.notifications
  · rw [Notification.account_marked keeps]
  · exact Notification.marked_of_other other own (decide_eq_true_eq.mp mine)

theorem informs_of_does (does : Does policy moment store kind op after)
    (other : account ≠ op.account) :
    Informs kind op account (store.notificationsTo account) (after.notificationsTo account) := by
  cases does with
  | follow op =>
      simp only [Informs, notificationsTo, List.filter_append]
      by_cases told : op.follow = account
      · right
        exact ⟨told, ⟨moment.freshId, op.follow, .startedFollow op.account, false, false,
          moment.now⟩, told, rfl, by simp [told]⟩
      · left
        simp [told]
  | unfollow op =>
      simp only [Informs, notificationsTo, List.filter_filter]
      split
      · rename_i concerned
        rw [concerned]
        refine List.filter_congr fun n _ => ?_
        by_cases own : n.account = account
        · simp [Notification.isFollowOf, own]
        · simp [own]
      · rename_i unconcerned
        refine List.filter_congr fun n _ => ?_
        by_cases own : n.account = account
        · simp [Notification.isFollowOf, own, Ne.symm unconcerned]
        · simp [own]
  | markNotificationRead op =>
      refine notificationsTo_mark other (fun n => { n with isRead := true })
        (fun _ => rfl) fun n marked => ?_
      simp only [Bool.and_eq_true, decide_eq_true_eq] at marked
      exact marked.1
  | markAllNotificationsRead op =>
      exact notificationsTo_mark other (fun n => { n with isRead := true })
        (fun _ => rfl) fun _ marked => marked
  | markAllNotificationsSeen op =>
      exact notificationsTo_mark other (fun n => { n with isSeen := true })
        (fun _ => rfl) fun _ marked => marked
  | register | updateProfile | uploadMedia | addToBlacklist | removeFromBlacklist | addCategory
  | removeCategory | updateCategory | setAccountTrusted | upsertDraft | removeDraft
  | updateProfileSettings | registerPushToken | castDownvote | removeDownvote => rfl

/-- The profile of another account stays, unless the administrator decides whether it is
trusted, and then only that changes. -/
theorem profile_of_does (does : Does policy moment store kind op after)
    (other : account ≠ op.account) :
    after.profiles[account]? = store.profiles[account]? ∨
      op.account = policy.adminAccount ∧ ∃ trusted, Vouches kind op account trusted ∧
        after.profiles[account]? = (store.profiles[account]?).map fun profile =>
          { profile with isTrusted := trusted } := by
  cases does with
  | register op =>
      left
      rw [ExtTreeMap.getElem?_insertIfNew, if_neg]
      intro h
      exact other (LawfulEqOrd.eq_of_compare h.1).symm
  | updateProfile op =>
      left
      rw [ExtTreeMap.getElem?_insert, if_neg]
      intro h
      exact other (LawfulEqOrd.eq_of_compare h).symm
  | setAccountTrusted op admin found =>
      by_cases named : op.blogAccount = account
      · right
        subst named
        exact ⟨admin, op.isTrusted, ⟨rfl, rfl⟩, by rw [found]; simp⟩
      · left
        rw [ExtTreeMap.getElem?_insert, if_neg (mt LawfulEqOrd.eq_of_compare named)]
  | follow | unfollow | uploadMedia | addToBlacklist | removeFromBlacklist | addCategory
  | removeCategory | updateCategory | upsertDraft | removeDraft | markNotificationRead
  | markAllNotificationsRead | markAllNotificationsSeen | updateProfileSettings
  | registerPushToken | castDownvote | removeDownvote => exact .inl rfl

/-! ### What the administrator decides -/

/-- Whether an account is trusted stays, unless the administrator decides it. -/
theorem isTrusted_of_does (does : Does policy moment store kind op after) (account : String) :
    after.isTrusted account = store.isTrusted account ∨
      op.account = policy.adminAccount ∧ ∃ trusted, Vouches kind op account trusted := by
  cases does with
  | register op =>
      left
      unfold isTrusted
      by_cases new : compare op.account account = .eq ∧ ¬ op.account ∈ store.profiles
      · obtain ⟨same, absent⟩ := new
        obtain rfl := LawfulEqOrd.eq_of_compare same
        rw [ExtTreeMap.getElem?_insertIfNew, if_pos ⟨same, absent⟩,
          ExtTreeMap.getElem?_eq_none absent]
        rfl
      · rw [ExtTreeMap.getElem?_insertIfNew, if_neg new]
  | updateProfile op found =>
      left
      unfold isTrusted
      by_cases own : op.account = account
      · subst own
        rw [ExtTreeMap.getElem?_insert_self, found]
      · rw [ExtTreeMap.getElem?_insert, if_neg (mt LawfulEqOrd.eq_of_compare own)]
  | setAccountTrusted op admin found =>
      by_cases named : op.blogAccount = account
      · exact .inr ⟨admin, op.isTrusted, named, rfl⟩
      · left
        unfold isTrusted
        rw [ExtTreeMap.getElem?_insert, if_neg (mt LawfulEqOrd.eq_of_compare named)]
  | follow | unfollow | uploadMedia | addToBlacklist | removeFromBlacklist | addCategory
  | removeCategory | updateCategory | upsertDraft | removeDraft | markNotificationRead
  | markAllNotificationsRead | markAllNotificationsSeen | updateProfileSettings
  | registerPushToken | castDownvote | removeDownvote => exact .inl rfl

/-- Hidden posts and categories are for the administrator alone. -/
theorem shared_of_does (does : Does policy moment store kind op after)
    (user : op.account ≠ policy.adminAccount) :
    after.blacklist = store.blacklist ∧ after.categories = store.categories := by
  cases does with
  | addToBlacklist op admin => exact absurd admin user
  | removeFromBlacklist op admin => exact absurd admin user
  | addCategory op admin => exact absurd admin user
  | removeCategory op admin => exact absurd admin user
  | updateCategory op admin => exact absurd admin user
  | register | updateProfile | follow | unfollow | uploadMedia | setAccountTrusted | upsertDraft
  | removeDraft | markNotificationRead | markAllNotificationsRead | markAllNotificationsSeen
  | updateProfileSettings | registerPushToken | castDownvote | removeDownvote => exact ⟨rfl, rfl⟩

/-! ### Whatever the outcome -/

/-- A change that fails has informed nobody; the end of a follow does not fail. -/
private theorem informs_of_error {error : Rpc.Error}
    (failed : apply policy moment kind op store = .error error)
    (notifications : List Notification) :
    Informs kind op account notifications notifications := by
  cases kind with
  | unfollow => cases failed
  | follow => exact .inl rfl
  | register | updateProfile | uploadMedia | addToBlacklistAdmin | removeFromBlacklistAdmin
  | addCategoryAdmin | removeCategoryAdmin | updateCategoryAdmin | setAccountTrustedAdmin
  | upsertDraft | removeDraft | markNotificationRead | markAllNotificationsRead
  | markAllNotificationsSeen | updateProfileSettings | registerPushToken | downvote
  | removeDownvote => rfl

/--
**An account changes nothing that belongs to another.**

Whatever an operation says, and whether it succeeds or not, what belongs to another account
stays as it was, except that the other account may be told of a follow, or no longer.  Whom
to trust, which posts to hide and the categories are for the administrator; and of another's
profile the administrator changes no more than whether its account is trusted.
-/
theorem update_spares_others (policy : Policy) (moment : Moment) (store : Store) {kind : Kind}
    (op : Body kind) :
    let after := (Run.update (apply policy moment kind op) store).state
    (∀ account, account ≠ op.account →
      Spares account store after ∧
      Informs kind op account (store.notificationsTo account) (after.notificationsTo account)) ∧
    (op.account ≠ policy.adminAccount →
      (∀ account, account ≠ op.account → after.profiles[account]? = store.profiles[account]?) ∧
      (∀ account, after.isTrusted account = store.isTrusted account) ∧
      after.blacklist = store.blacklist ∧ after.categories = store.categories) ∧
    (op.account = policy.adminAccount →
      (∀ account, account ≠ op.account →
        after.profiles[account]? = store.profiles[account]? ∨
        ∃ trusted, Vouches kind op account trusted ∧ after.profiles[account]?
          = (store.profiles[account]?).map fun profile => { profile with isTrusted := trusted }) ∧
      (∀ account, after.isTrusted account = store.isTrusted account ∨
        ∃ trusted, Vouches kind op account trusted)) := by
  intro after
  cases applied : apply policy moment kind op store with
  | error error =>
      have same : after = store := by simp only [after, Run.update, applied]
      rw [same]
      refine ⟨fun account _ => ⟨{}, informs_of_error applied _⟩, fun _ => ?_, fun _ => ?_⟩
      · exact ⟨fun _ _ => rfl, fun _ => rfl, rfl, rfl⟩
      · exact ⟨fun _ _ => .inl rfl, fun _ => .inl rfl⟩
  | ok changed =>
      have same : after = changed := by simp only [after, Run.update, applied]
      have does := does_of_apply applied
      rw [same]
      refine ⟨fun account other => ⟨spares_of_does does other, informs_of_does does other⟩,
        fun user => ⟨?_, ?_, shared_of_does does user⟩, fun _ => ⟨?_, ?_⟩⟩
      · intro account other
        exact (profile_of_does does other).resolve_right fun h => user h.1
      · intro account
        exact (isTrusted_of_does does account).resolve_right fun h => user h.1
      · intro account other
        exact (profile_of_does does other).imp_right And.right
      · intro account
        exact (isTrusted_of_does does account).imp_right And.right

/-- A store in which bob has a profile and follows carol. -/
private def bobsStore : Store :=
  { profiles := (∅ : ExtTreeMap String Profile).insert "bob" (.fresh "bob" ⟨0⟩)
    follows := [⟨"bob", "carol"⟩] }

/-- Alice follows bob. -/
private def aliceFollowsBob : Store :=
  (Run.update (apply .default default .follow (⟨"alice", "bob"⟩ : Follow)) bobsStore).state

/-- The administrator vouches for bob. -/
private def bobIsTrusted : Store :=
  (Run.update (apply .default default .setAccountTrustedAdmin
    (⟨"admin", "bob", true⟩ : SetAccountTrustedAdmin)) bobsStore).state

/-- Bob is told of alice and keeps the rest, and gains nothing but trust when he is named. -/
theorem bob_spared :
    ("bob" ≠ "alice" ∧ "alice" ≠ Policy.default.adminAccount ∧
      Spares "bob" bobsStore aliceFollowsBob ∧
      Informs .follow (⟨"alice", "bob"⟩ : Follow) "bob" (bobsStore.notificationsTo "bob")
        (aliceFollowsBob.notificationsTo "bob") ∧
      aliceFollowsBob.notifications.length = 1 ∧
      aliceFollowsBob.isTrusted "bob" = bobsStore.isTrusted "bob") ∧
    ("bob" ≠ "admin" ∧ "admin" = Policy.default.adminAccount ∧
      bobIsTrusted.isTrusted "bob" = true ∧
      (bobIsTrusted.isTrusted "alice" = bobsStore.isTrusted "alice" ∨
        ∃ trusted, Vouches .setAccountTrustedAdmin
          (⟨"admin", "bob", true⟩ : SetAccountTrustedAdmin) "alice" trusted)) := by
  have user : "alice" ≠ Policy.default.adminAccount := by decide
  obtain ⟨others, shared, -⟩ := @update_spares_others .default default bobsStore
    .follow (⟨"alice", "bob"⟩ : Follow)
  obtain ⟨-, -, admin⟩ := @update_spares_others .default default bobsStore
    .setAccountTrustedAdmin (⟨"admin", "bob", true⟩ : SetAccountTrustedAdmin)
  obtain ⟨spared, informed⟩ := others "bob" (by decide)
  exact ⟨⟨by decide, user, spared, informed, by decide +kernel, (shared user).2.1 "bob"⟩,
    by decide, rfl, by decide +kernel, (admin rfl).2 "alice"⟩

end Store

end BlogGateway.Blog
