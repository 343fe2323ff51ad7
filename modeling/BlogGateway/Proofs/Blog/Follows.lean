/-
Follows and what is told of them.

The blog keeps two lists that belong together: who follows whom, and the notifications by
which those who are followed have learned of it.  They are written by the same operations, but
each in its own way: to end a follow is to filter the one list by account and follow, and the
other by what its notifications say.

That they stay in step is an invariant of the stores that a blog comes to.  It says that the
follows are what the notifications tell of, in their order, and that no follow is there twice;
so no follow is without its notification, and none has two.

The listings of those who follow an account and of those whom it follows are one listing, read
from one end of the follows or from the other.
-/
import BlogGateway.Blog.View
import BlogGateway.Proofs.Blog.Reach

namespace BlogGateway.Blog

open Operation Std

namespace Notification

/-- The follow that a notification tells of. -/
def following (notification : Notification) : Following :=
  match notification.notice with
  | .startedFollow follower => ⟨follower, notification.account⟩

theorem isFollowOf_iff {follower followed : String} {notification : Notification} :
    notification.isFollowOf follower followed = true ↔
      notification.following = ⟨follower, followed⟩ := by
  obtain ⟨id, account, ⟨name⟩, isRead, isSeen, timestamp⟩ := notification
  simp [isFollowOf, following, and_comm]

end Notification

namespace Store

variable {policy : Policy} {moment : Moment} {store after : Store} {kind : Kind}
  {op : Body kind}

/-! ### Both ends of a follow -/

/-- The profiles at the far ends of the follows that an account is at the near end of, the
newest follow first. -/
def ends (store : Store) (near far : Following → String) (account : String) : List Profile :=
  (store.follows.reverse.filter (near · = account)).filterMap fun following =>
    store.profiles[far following]?

theorem allFollowers_eq_ends (store : Store) (account : String) :
    store.allFollowers account = store.ends Following.followed Following.follower account := rfl

theorem allFollowing_eq_ends (store : Store) (account : String) :
    store.allFollowing account = store.ends Following.follower Following.followed account := rfl

/-- As many are listed as there are follows of the account with a profile at the far end. -/
theorem length_ends (store : Store) (near far : Following → String) (account : String) :
    (store.ends near far account).length
      = (store.follows.filter (near · = account)).countP (far · ∈ store.profiles) := by
  rw [ends, List.length_filterMap_eq_countP, List.filter_reverse, List.countP_reverse]
  refine List.countP_congr fun following _ => ?_
  rw [decide_eq_true_iff, ExtTreeMap.mem_iff_isSome_getElem?]

/-- No listing is longer than all follows. -/
theorem length_ends_le (store : Store) (near far : Following → String) (account : String) :
    (store.ends near far account).length ≤ store.follows.length := by
  rw [length_ends]
  exact Nat.le_trans List.countP_le_length (List.length_filter_le _ _)

/-! ### Follows in step with notifications -/

/-- A profile is never lost. -/
theorem mem_profiles_of_does (does : Does policy moment store kind op after) {account : String}
    (known : account ∈ store.profiles) : account ∈ after.profiles := by
  cases does with
  | register op => exact ExtTreeMap.mem_insertIfNew.mpr (.inr known)
  | updateProfile op => exact ExtTreeMap.mem_insert.mpr (.inr known)
  | setAccountTrusted op => exact ExtTreeMap.mem_insert.mpr (.inr known)
  | follow | unfollow | uploadMedia | addToBlacklist | removeFromBlacklist | addCategory
  | removeCategory | updateCategory | upsertDraft | removeDraft | markNotificationRead
  | markAllNotificationsRead | markAllNotificationsSeen | updateProfileSettings
  | registerPushToken | castDownvote | removeDownvote => exact known

/-- Follows and notifications are in step, and follows keep to the rules for them. -/
structure InStep (policy : Policy) (store : Store) : Prop where
  told : store.follows = store.notifications.map Notification.following
  distinct : store.follows.Nodup
  limited : ∀ account, store.follows.countP (·.follower = account) ≤ policy.maxFollows
  known : ∀ following ∈ store.follows, following.followed ∈ store.profiles

namespace InStep

/-- Marks change nothing that a notification tells of. -/
theorem mark (inStep : InStep policy store) {change : Notification → Notification}
    (keeps : ∀ notification, (change notification).following = notification.following) :
    InStep policy { store with notifications := store.notifications.map change } := by
  refine { inStep with told := ?_ }
  rw [List.map_map, inStep.told]
  exact List.map_congr_left fun notification _ => (keeps notification).symm

/-- The lists are in step as long as they are the same and no profile is lost. -/
theorem of_same (inStep : InStep policy store) (follows : after.follows = store.follows)
    (notifications : after.notifications = store.notifications)
    (kept : ∀ account ∈ store.profiles, account ∈ after.profiles) : InStep policy after where
  told := by rw [follows, notifications, inStep.told]
  distinct := follows ▸ inStep.distinct
  limited := follows ▸ inStep.limited
  known := fun following hmem => kept _ (inStep.known following (follows ▸ hmem))

/-- A follow that is new is told in the same place of the other list. -/
theorem follow (inStep : InStep policy store) {follow : Following} {notification : Notification}
    (tells : notification.following = follow)
    (room : store.follows.countP (·.follower = follow.follower) < policy.maxFollows)
    (new : follow ∉ store.follows) (known : follow.followed ∈ store.profiles) :
    InStep policy { store with
      notifications := store.notifications ++ [notification]
      follows := store.follows ++ [follow] } where
  told := by
    rw [List.map_append, List.map_singleton, tells, inStep.told]
  distinct := by
    rw [List.nodup_append]
    refine ⟨inStep.distinct, by simp, fun following hmem last hlast => ?_⟩
    rw [List.mem_singleton.mp hlast]
    exact fun same => new (same ▸ hmem)
  limited := by
    intro account
    rw [List.countP_append, List.countP_singleton]
    by_cases own : follow.follower = account
    · subst own
      rw [if_pos (decide_eq_true rfl)]
      exact room
    · simpa [own] using inStep.limited account
  known := by
    intro following hmem
    rcases List.mem_append.mp hmem with hmem | hlast
    · exact inStep.known following hmem
    · rw [List.mem_singleton.mp hlast]
      exact known

/-- The end of a follow throws the same out of both lists. -/
theorem unfollow (inStep : InStep policy store) (follow : Following) :
    InStep policy { store with
      follows := store.follows.filter (· ≠ follow)
      notifications := store.notifications.filter fun notification =>
        !notification.isFollowOf follow.follower follow.followed } where
  told := by
    dsimp only
    rw [inStep.told, List.filter_map]
    congr 1
    refine List.filter_congr fun notification _ => ?_
    rw [Bool.eq_iff_iff, Bool.not_eq_true', ← Bool.not_eq_true, Notification.isFollowOf_iff]
    simp
  distinct := inStep.distinct.sublist List.filter_sublist
  limited := fun account =>
    Nat.le_trans (List.filter_sublist.countP_le) (inStep.limited account)
  known := fun following hmem => inStep.known following (List.mem_filter.mp hmem).1

/-- Every operation keeps the lists in step. -/
theorem of_does (inStep : InStep policy store)
    (does : Does policy moment store kind op after) : InStep policy after := by
  have kept (account : String) : account ∈ store.profiles → account ∈ after.profiles :=
    mem_profiles_of_does does
  cases does with
  | follow op room new known =>
      refine inStep.follow rfl room ?_ known
      simpa [isFollowing] using new
  | unfollow op => exact inStep.unfollow ⟨op.account, op.unfollow⟩
  | markNotificationRead op =>
      refine inStep.mark fun notification => ?_
      split <;> rfl
  | markAllNotificationsRead op =>
      refine inStep.mark fun notification => ?_
      split <;> rfl
  | markAllNotificationsSeen op =>
      refine inStep.mark fun notification => ?_
      split <;> rfl
  | register | updateProfile | uploadMedia | addToBlacklist | removeFromBlacklist | addCategory
  | removeCategory | updateCategory | setAccountTrusted | upsertDraft | removeDraft
  | updateProfileSettings | registerPushToken | castDownvote | removeDownvote =>
      exact inStep.of_same rfl rfl kept

/-- A follow that there is has been told once, and one that there is not has not been told. -/
theorem countP_isFollowOf (inStep : InStep policy store) (follower followed : String) :
    store.notifications.countP (Notification.isFollowOf follower followed)
      = if ⟨follower, followed⟩ ∈ store.follows then 1 else 0 := by
  rw [← inStep.distinct.count, inStep.told, List.count, List.countP_map]
  refine List.countP_congr fun notification _ => ?_
  rw [Notification.isFollowOf_iff]
  simp

end InStep

theorem inStep_empty (policy : Policy) : InStep policy .empty where
  told := rfl
  distinct := List.nodup_nil
  limited := fun _ => Nat.zero_le _
  known := fun _ hmem => nomatch hmem

theorem Reachable.inStep (reached : Reachable policy store) : InStep policy store :=
  reached.invariant (inStep_empty policy) fun inStep does => inStep.of_does does

/--
**What is told is what is followed.**

In every store that a blog comes to, the notifications tell of the follows, one by one and in
the same order.  No account follows another twice, and none follows more than it may; whoever
is followed has a profile.  So a follow has one notification as long as it lasts, and none
afterwards.
-/
theorem Reachable.follows_told (reached : Reachable policy store) :
    store.follows = store.notifications.map Notification.following ∧
    store.follows.Nodup ∧
    (∀ account, store.follows.countP (·.follower = account) ≤ policy.maxFollows) ∧
    (∀ following ∈ store.follows, following.followed ∈ store.profiles) ∧
    (∀ follower followed,
      store.notifications.countP (Notification.isFollowOf follower followed)
        = if ⟨follower, followed⟩ ∈ store.follows then 1 else 0) :=
  ⟨reached.inStep.told, reached.inStep.distinct, reached.inStep.limited, reached.inStep.known,
    reached.inStep.countP_isFollowOf⟩

/-- Alice has followed bob and carol, then not bob any more, and then bob again. -/
private def followedAgain : Store :=
  Store.empty
    |>.perform .default default .register (⟨"bob"⟩ : Register)
    |>.perform .default default .register (⟨"carol"⟩ : Register)
    |>.perform .default default .follow (⟨"alice", "bob"⟩ : Follow)
    |>.perform .default default .follow (⟨"alice", "carol"⟩ : Follow)
    |>.perform .default default .unfollow (⟨"alice", "bob"⟩ : Unfollow)
    |>.perform .default default .follow (⟨"alice", "bob"⟩ : Follow)

private theorem reachable_followedAgain : Reachable .default followedAgain :=
  ((((((Reachable.empty.perform _ _ _).perform _ _ _).perform _ _ _).perform _ _ _).perform
    _ _ _).perform _ _ _)

/-- Bob has been told once, and after carol. -/
theorem followed_again_told_once :
    Reachable .default followedAgain ∧
    followedAgain.notifications.map Notification.following
      = [⟨"alice", "carol"⟩, ⟨"alice", "bob"⟩] ∧
    followedAgain.notifications.countP (Notification.isFollowOf "alice" "bob") = 1 := by
  have follows : followedAgain.follows = [⟨"alice", "carol"⟩, ⟨"alice", "bob"⟩] := by
    decide +kernel
  obtain ⟨told, -, -, -, once⟩ := Reachable.follows_told reachable_followedAgain
  refine ⟨reachable_followedAgain, ?_, ?_⟩
  · rw [← told, follows]
  · rw [once, follows]
    decide

end Store

end BlogGateway.Blog
