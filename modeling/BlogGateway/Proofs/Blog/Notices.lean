/-
What becomes of notifications.

A notification tells of a follow, and there is one for each follow, so a notification is known
again by the follow that it tells of, as long as that is told of without a break.  From one deed
to the next it stays what it is, but for two marks: that it has been read, which its recipient
says of it or of all at once, and that it has been seen, which the recipient says of all.  There
is no deed that takes a mark away.  So over any run the marks are those that were there and those
that have been made in the meantime.

A notification has its id and its time from the moment at which the follow has begun.  As long as
no two moments give the same id, it is known again by its id as well.

The newest notifications of an account are those of the follows that have begun last.
-/
import BlogGateway.Proofs.Blog.Newest

namespace BlogGateway.Blog

open Operation History

/-! ### What deeds do to notifications -/

/-- The deed makes the follow that the notification tells of, whatever has been marked of it. -/
inductive Deed.Tells : Deed → Notification → Prop
  | follow (moment : Moment) (op : Follow) (isRead isSeen : Bool) :
      Tells ⟨moment, .follow, op⟩
        ⟨moment.freshId, op.follow, .startedFollow op.account, isRead, isSeen, moment.now⟩

/-- The recipient marks the notification as read, by its id or with all others. -/
inductive Deed.MarksRead : Deed → Notification → Prop
  | one (moment : Moment) (op : MarkNotificationRead) {notification : Notification}
      (own : notification.account = op.account) (named : notification.id = op.id) :
      MarksRead ⟨moment, .markNotificationRead, op⟩ notification
  | all (moment : Moment) (op : MarkAllNotificationsRead) {notification : Notification}
      (own : notification.account = op.account) :
      MarksRead ⟨moment, .markAllNotificationsRead, op⟩ notification

/-- The recipient marks all notifications as seen. -/
inductive Deed.MarksSeen : Deed → Notification → Prop
  | all (moment : Moment) (op : MarkAllNotificationsSeen) {notification : Notification}
      (own : notification.account = op.account) :
      MarksSeen ⟨moment, .markAllNotificationsSeen, op⟩ notification

/-- The deeds make the second notification of the first: they mark it, and leave it as it is
otherwise. -/
structure Notification.Becomes (deeds : List Deed) (notification later : Notification) :
    Prop where
  same : later = { notification with isRead := later.isRead, isSeen := later.isSeen }
  read : later.isRead = true ↔
    notification.isRead = true ∨ ∃ deed ∈ deeds, deed.MarksRead notification
  seen : later.isSeen = true ↔
    notification.isSeen = true ∨ ∃ deed ∈ deeds, deed.MarksSeen notification

section Deeds

variable {deed : Deed} {deeds : List Deed} {notification later last : Notification}

/-- Who may mark a notification depends on nothing that is marked. -/
theorem Deed.marksRead_congr {isRead isSeen : Bool} :
    deed.MarksRead { notification with isRead := isRead, isSeen := isSeen } ↔
      deed.MarksRead notification := by
  constructor
  · rintro (⟨moment, op, own, named⟩ | ⟨moment, op, own⟩)
    · exact .one moment op own named
    · exact .all moment op own
  · rintro (⟨moment, op, own, named⟩ | ⟨moment, op, own⟩)
    · exact .one moment op own named
    · exact .all moment op own

theorem Deed.marksSeen_congr {isRead isSeen : Bool} :
    deed.MarksSeen { notification with isRead := isRead, isSeen := isSeen } ↔
      deed.MarksSeen notification := by
  constructor
  · rintro ⟨moment, op, own⟩
    exact .all moment op own
  · rintro ⟨moment, op, own⟩
    exact .all moment op own

/-- All that a deed does not say of the notification of a follow is what will be marked of it. -/
theorem Deed.Tells.eq_with (tells : deed.Tells notification) (tells' : deed.Tells later) :
    later = { notification with isRead := later.isRead, isSeen := later.isSeen } := by
  cases tells with
  | follow moment op =>
      cases tells' with
      | follow => rfl

theorem Deed.Tells.freshId (tells : deed.Tells notification) :
    notification.id = deed.moment.freshId := by
  cases tells
  rfl

namespace Notification.Becomes

theorem refl (notification : Notification) : notification.Becomes [] notification where
  same := rfl
  read := by simp
  seen := by simp

theorem marked_read (read : deed.MarksRead notification) (seen : ¬ deed.MarksSeen notification) :
    notification.Becomes [deed] { notification with isRead := true } where
  same := rfl
  read := by simp [read]
  seen := by simp [seen]

theorem marked_seen (seen : deed.MarksSeen notification) (read : ¬ deed.MarksRead notification) :
    notification.Becomes [deed] { notification with isSeen := true } where
  same := rfl
  read := by simp [read]
  seen := by simp [seen]

theorem of_unmarked (read : ¬ deed.MarksRead notification)
    (seen : ¬ deed.MarksSeen notification) : notification.Becomes [deed] notification where
  same := rfl
  read := by simp [read]
  seen := by simp [seen]

theorem following_eq (becomes : notification.Becomes deeds later) :
    later.following = notification.following := by
  rw [becomes.same]
  rfl

theorem tells (becomes : notification.Becomes deeds later) (tells : deed.Tells notification) :
    deed.Tells later := by
  rw [becomes.same]
  cases tells with
  | follow moment op => exact .follow moment op _ _

/-- A mark that is made later is made of the same notification. -/
theorem marksRead_eq (becomes : notification.Becomes deeds later) :
    (fun deed : Deed => deed.MarksRead later) = fun deed => deed.MarksRead notification := by
  rw [becomes.same]
  exact funext fun deed => propext Deed.marksRead_congr

theorem marksSeen_eq (becomes : notification.Becomes deeds later) :
    (fun deed : Deed => deed.MarksSeen later) = fun deed => deed.MarksSeen notification := by
  rw [becomes.same]
  exact funext fun deed => propext Deed.marksSeen_congr

theorem snoc (becomes : notification.Becomes deeds later) (next : later.Becomes [deed] last) :
    notification.Becomes (deeds ++ [deed]) last where
  same := by
    rw [next.same, becomes.same]
  read := by
    rw [next.read, becomes.read, becomes.same, or_assoc]
    simp only [List.mem_append, List.mem_singleton, or_and_right, exists_or, exists_eq_left,
      Deed.marksRead_congr]
  seen := by
    rw [next.seen, becomes.seen, becomes.same, or_assoc]
    simp only [List.mem_append, List.mem_singleton, or_and_right, exists_or, exists_eq_left,
      Deed.marksSeen_congr]

end Notification.Becomes

end Deeds

namespace Store

variable {policy : Policy} {deeds more : List Deed} {deed : Deed}
  {notification later : Notification}

/-- What is told in the second store was told in the first, or it is the follow that the deed
has begun. -/
def Retells (deed : Deed) (store after : Store) : Prop :=
  ∀ later ∈ after.notifications,
    (∃ notification ∈ store.notifications, notification.Becomes [deed] later) ∨
      deed.Tells later ∧ later.isRead = false ∧ later.isSeen = false ∧
        later.following ∉ store.follows

theorem Retells.of_unmarked {store after : Store}
    (fewer : ∀ notification ∈ after.notifications, notification ∈ store.notifications)
    (read : ∀ notification, ¬ deed.MarksRead notification)
    (seen : ∀ notification, ¬ deed.MarksSeen notification) : Retells deed store after :=
  fun later hmem => .inl ⟨later, fewer later hmem, .of_unmarked (read later) (seen later)⟩

theorem Retells.of_marks {store after : Store} {change : Notification → Notification}
    (changed : after.notifications = store.notifications.map change)
    (marks : ∀ notification : Notification, notification.Becomes [deed] (change notification)) :
    Retells deed store after := by
  intro later hmem
  rw [changed] at hmem
  obtain ⟨notification, there, rfl⟩ := List.mem_map.mp hmem
  exact .inl ⟨notification, there, marks notification⟩

theorem retells_performDeed (policy : Policy) (store : Store) (deed : Deed) :
    Retells deed store (store.performDeed policy deed) := by
  obtain ⟨moment, kind, op⟩ := deed
  unfold performDeed
  cases kind with
  | follow =>
      have left : Retells ⟨moment, .follow, op⟩ store store :=
        .of_unmarked (fun _ => id) (by rintro _ ⟨⟩) (by rintro _ ⟨⟩)
      refine perform_invariant left fun does => ?_
      cases does with
      | follow op room new known =>
          intro later hmem
          rcases List.mem_append.mp hmem with there | isNew
          · exact left later there
          · obtain rfl := List.mem_singleton.mp isNew
            refine .inr ⟨.follow moment op false false, rfl, rfl, ?_⟩
            rw [isFollowing, ← Bool.not_eq_true, List.contains_iff_mem] at new
            exact new
  | unfollow =>
      refine perform_invariant
        (.of_unmarked (fun _ => id) (by rintro _ ⟨⟩) (by rintro _ ⟨⟩)) fun does => ?_
      cases does with
      | unfollow op =>
          exact .of_unmarked (fun _ hmem => (List.mem_filter.mp hmem).1) (by rintro _ ⟨⟩)
            (by rintro _ ⟨⟩)
  | markNotificationRead =>
      rw [perform_of_ok (apply_of_does (.markNotificationRead op))]
      refine .of_marks rfl fun notification => ?_
      simp only [Bool.and_eq_true, decide_eq_true_iff]
      split
      · rename_i wanted
        exact .marked_read (.one moment op wanted.1 wanted.2) (by rintro ⟨⟩)
      · rename_i unwanted
        refine .of_unmarked (fun marks => ?_) (by rintro ⟨⟩)
        cases marks with
        | one _ _ own named => exact unwanted ⟨own, named⟩
  | markAllNotificationsRead =>
      rw [perform_of_ok (apply_of_does (.markAllNotificationsRead op))]
      refine .of_marks rfl fun notification => ?_
      split
      · rename_i wanted
        exact .marked_read (.all moment op wanted) (by rintro ⟨⟩)
      · rename_i unwanted
        refine .of_unmarked (fun marks => ?_) (by rintro ⟨⟩)
        cases marks with
        | all _ _ own => exact unwanted own
  | markAllNotificationsSeen =>
      rw [perform_of_ok (apply_of_does (.markAllNotificationsSeen op))]
      refine .of_marks rfl fun notification => ?_
      split
      · rename_i wanted
        exact .marked_seen (.all moment op wanted) (by rintro ⟨⟩)
      · rename_i unwanted
        refine .of_unmarked (by rintro ⟨⟩) fun marks => ?_
        cases marks with
        | all _ _ own => exact unwanted own
  | _ =>
      refine perform_invariant
        (.of_unmarked (fun _ => id) (by rintro _ ⟨⟩) (by rintro _ ⟨⟩)) fun does => ?_
      cases does
      exact .of_unmarked (fun _ => id) (by rintro _ ⟨⟩) (by rintro _ ⟨⟩)

/-! ### Known again by what is told -/

theorem nodup_followings (policy : Policy) (deeds : List Deed) :
    ((after policy deeds).notifications.map Notification.following).Nodup := by
  have inStep := (reachable_after policy deeds).inStep
  rw [← inStep.told]
  exact inStep.distinct

theorem mem_follows_iff {following : Following} :
    following ∈ (after policy deeds).follows ↔
      ∃ notification ∈ (after policy deeds).notifications, notification.following = following := by
  rw [(reachable_after policy deeds).inStep.told, List.mem_map]

theorem eq_of_following_eq (hmem : notification ∈ (after policy deeds).notifications)
    (hmem' : later ∈ (after policy deeds).notifications)
    (same : notification.following = later.following) : notification = later :=
  List.inj_on_of_nodup_map (nodup_followings policy deeds) hmem hmem' same

/-- The follow is told of after each of the deeds that are done then. -/
def StillTold (policy : Policy) (deeds more : List Deed) (following : Following) : Prop :=
  ∀ part, part <+: more → ∃ notification ∈ (after policy (deeds ++ part)).notifications,
    notification.following = following

/-- A notification that is still there has become what the deeds have made of it. -/
theorem becomes_of_stillTold (hmem : notification ∈ (after policy deeds).notifications)
    (hlater : later ∈ (after policy (deeds ++ more)).notifications)
    (same : later.following = notification.following)
    (still : StillTold policy deeds more notification.following) :
    notification.Becomes more later := by
  induction more using List.reverseRecOn generalizing later with
  | nil =>
      rw [List.append_nil] at hlater
      rw [eq_of_following_eq hlater hmem same]
      exact .refl notification
  | append_singleton more deed ih =>
      have within : more <+: more ++ [deed] := List.prefix_append more [deed]
      obtain ⟨middle, hmiddle, is⟩ := still more within
      have becomes := ih hmiddle is fun part isPart => still part (isPart.trans within)
      rw [← List.append_assoc, after_snoc] at hlater
      obtain ⟨before, hbefore, next⟩ | ⟨-, -, -, new⟩ :=
        retells_performDeed policy (after policy (deeds ++ more)) deed later hlater
      · have unique : before = middle :=
          eq_of_following_eq hbefore hmiddle (next.following_eq.symm.trans (same.trans is.symm))
        exact becomes.snoc (unique ▸ next)
      · -- what is told of already is not told anew
        rw [same] at new
        exact absurd (mem_follows_iff.mpr ⟨middle, hmiddle, is⟩) new

/-! ### Told by a deed -/

end Store

/-- The notification tells of the follow that has begun by the deed at the place and has lasted
since, and it is marked as it has been marked since. -/
structure Notification.ToldAt (policy : Policy) (deeds : List Deed) (notification : Notification)
    (i : Nat) : Prop where
  since : FollowsSince policy deeds notification.following i
  told : At (·.Tells notification) deeds i
  read : notification.isRead = true ↔ ∃ j, i < j ∧ At (·.MarksRead notification) deeds j
  seen : notification.isSeen = true ↔ ∃ j, i < j ∧ At (·.MarksSeen notification) deeds j

/-- A deed tells of one follow, and in one way. -/
theorem Notification.ToldAt.unique {policy : Policy} {deeds : List Deed}
    {notification notification' : Notification} {i : Nat}
    (toldAt : notification.ToldAt policy deeds i)
    (toldAt' : notification'.ToldAt policy deeds i) : notification = notification' := by
  obtain ⟨deed, tells, tells'⟩ := toldAt.told.both toldAt'.told
  have same := tells.eq_with tells'
  have read : notification'.isRead = notification.isRead := by
    rw [Bool.eq_iff_iff, toldAt.read, toldAt'.read, same]
    simp only [Deed.marksRead_congr]
  have seen : notification'.isSeen = notification.isSeen := by
    rw [Bool.eq_iff_iff, toldAt.seen, toldAt'.seen, same]
    simp only [Deed.marksSeen_congr]
  rw [same, read, seen]

namespace Store

variable {policy : Policy} {deeds more : List Deed} {deed : Deed}
  {notification later : Notification}

theorem exists_toldAt (hmem : notification ∈ (after policy deeds).notifications) :
    ∃ i, notification.ToldAt policy deeds i := by
  induction deeds using List.reverseRecOn generalizing notification with
  | nil => exact nomatch hmem
  | append_singleton deeds deed ih =>
      have now : notification.following ∈ (after policy (deeds ++ [deed])).follows :=
        mem_follows_iff.mpr ⟨notification, hmem, rfl⟩
      rw [after_snoc] at hmem
      obtain ⟨before, hbefore, becomes⟩ | ⟨tells, unread, unseen, new⟩ :=
        retells_performDeed policy (after policy deeds) deed notification hmem
      · obtain ⟨i, since, told, read, seen⟩ := ih hbefore
        have early := since.done
        rw [← becomes.following_eq] at since
        refine ⟨i, holdsSince_snoc.mpr ⟨now, .inl since⟩, ?_, ?_, ?_⟩
        · rw [at_snoc_of_lt early]
          obtain ⟨deed, found, tells⟩ := told
          exact ⟨deed, found, becomes.tells tells⟩
        · rw [becomes.read, read, becomes.marksRead_eq, exists_at_snoc early]
          simp only [List.mem_singleton, exists_eq_left]
        · rw [becomes.seen, seen, becomes.marksSeen_eq, exists_at_snoc early]
          simp only [List.mem_singleton, exists_eq_left]
      · refine ⟨deeds.length, holdsSince_snoc.mpr ⟨now, .inr ⟨rfl, new⟩⟩,
          at_snoc_length.mpr tells, ?_, ?_⟩
        · rw [unread]
          exact iff_of_false Bool.false_ne_true not_exists_at_behind
        · rw [unseen]
          exact iff_of_false Bool.false_ne_true not_exists_at_behind

/-- What is told at a moment is what the deeds until then have told. -/
theorem mem_notifications_iff : notification ∈ (after policy deeds).notifications ↔
    ∃ i, notification.ToldAt policy deeds i := by
  refine ⟨exists_toldAt, ?_⟩
  rintro ⟨i, toldAt⟩
  obtain ⟨kept, hkept, same⟩ := mem_follows_iff.mp toldAt.since.now
  obtain ⟨j, toldAt'⟩ := exists_toldAt hkept
  obtain rfl : i = j := toldAt.since.unique (same ▸ toldAt'.since)
  rwa [toldAt.unique toldAt']

/-- When no two moments give the same id, an id names the deed that it comes from. -/
theorem place_eq_of_id_eq {i j : Nat} (fresh : (deeds.map fun deed => deed.moment.freshId).Nodup)
    (told : At (·.Tells notification) deeds i) (told' : At (·.Tells later) deeds j)
    (same : later.id = notification.id) : i = j := by
  have within : i < (deeds.map fun deed => deed.moment.freshId).length := by
    rw [List.length_map]
    exact told.lt_length
  obtain ⟨deed, found, tells⟩ := told
  obtain ⟨deed', found', tells'⟩ := told'
  refine (List.getElem?_inj within fresh).mp ?_
  rw [List.getElem?_map, List.getElem?_map, found, found', Option.map_some, Option.map_some,
    ← tells.freshId, ← tells'.freshId, same]

/-- Then a notification is known again by its id. -/
theorem stillTold_of_id_eq
    (fresh : ((deeds ++ more).map fun deed => deed.moment.freshId).Nodup)
    (hmem : notification ∈ (after policy deeds).notifications)
    (hlater : later ∈ (after policy (deeds ++ more)).notifications)
    (same : later.id = notification.id) :
    later.following = notification.following ∧
      StillTold policy deeds more notification.following := by
  obtain ⟨i, toldAt⟩ := exists_toldAt hmem
  obtain ⟨j, toldAt'⟩ := exists_toldAt hlater
  have early := toldAt.since.done
  have told := (at_append_of_lt early more).mpr toldAt.told
  obtain rfl := place_eq_of_id_eq fresh told toldAt'.told same
  obtain ⟨deed, tells, tells'⟩ := told.both toldAt'.told
  have is : later.following = notification.following := by
    rw [tells.eq_with tells']
    rfl
  refine ⟨is, ?_⟩
  rintro part ⟨rest, rfl⟩
  -- the follow has begun before the first of these moments and has lasted until the last
  have lasting := toldAt'.since.lasting (deeds ++ part).length
  rw [← List.append_assoc, List.take_left, is] at lasting
  exact mem_follows_iff.mp (lasting (by simp; omega) (by simp))

/-! ### What an account is shown -/

theorem pairwise_notifications (policy : Policy) (deeds : List Deed) :
    (after policy deeds).notifications.Pairwise fun notification notification' =>
      Newer policy deeds notification'.following notification.following := by
  have begun := pairwise_follows policy deeds
  rwa [(reachable_after policy deeds).inStep.told, List.pairwise_map] at begun

/--
**What has been read stays read, and what has been seen stays seen.**

Whatever has been done to the blog, the notifications are those that the deeds have told, and
their marks are those that have been made since.  A notification that is still there after more
deeds has the id, the recipient, the content and the time that it had; it is marked as read if
it was so before, or if its recipient has marked it since, by its id or with all others, and as
seen if it was so before or its recipient has marked all as seen since.  That it is still there
can be told from the follow that it tells of, or from its id, when no two moments give the same.
An account is shown the newest of its notifications, newest first, and as many as there may be.
-/
theorem notifications_of_history (policy : Policy) (deeds : List Deed) :
    (∀ notification, notification ∈ (after policy deeds).notifications ↔
      ∃ i, notification.ToldAt policy deeds i) ∧
    ((after policy deeds).notifications.map Notification.following).Nodup ∧
    (∀ more, ∀ notification ∈ (after policy deeds).notifications,
      ∀ later ∈ (after policy (deeds ++ more)).notifications,
        later.following = notification.following →
        StillTold policy deeds more notification.following →
          notification.Becomes more later) ∧
    (∀ more, ((deeds ++ more).map fun deed => deed.moment.freshId).Nodup →
      ∀ notification ∈ (after policy deeds).notifications,
      ∀ later ∈ (after policy (deeds ++ more)).notifications, later.id = notification.id →
        later.following = notification.following ∧
          StillTold policy deeds more notification.following) ∧
    ∀ account,
      (∃ all : List Notification,
        all.Perm ((after policy deeds).notifications.filter (·.account = account)) ∧
        (all.Pairwise fun notification notification' =>
          Newer policy deeds notification.following notification'.following) ∧
        (after policy deeds).notificationsOf policy account
          = all.take policy.notificationsLimit) ∧
      ((after policy deeds).notificationsOf policy account).length
        = min policy.notificationsLimit
            ((after policy deeds).notifications.countP (·.account = account)) := by
  refine ⟨fun _ => mem_notifications_iff, nodup_followings policy deeds,
    fun more notification hmem later => becomes_of_stillTold hmem,
    fun more fresh notification hmem later => stillTold_of_id_eq fresh hmem,
    fun account => ⟨⟨_, (List.reverse_perm _).filter _, ?_, rfl⟩, ?_⟩⟩
  · exact (List.pairwise_reverse.mpr (pairwise_notifications policy deeds)).filter _
  · rw [notificationsOf, List.length_take, ← List.countP_eq_length_filter, List.countP_reverse]

/-- Carol reads the first of two notifications and then sees both. -/
example :
    let follow (account : String) (id : Uuid) : Deed :=
      ⟨⟨⟨0⟩, id⟩, .follow, ⟨account, "carol"⟩⟩
    ((after .default [⟨default, .register, ⟨"carol"⟩⟩, follow "alice" ⟨1⟩, follow "bob" ⟨2⟩,
        ⟨default, .markNotificationRead, ⟨"carol", ⟨1⟩⟩⟩,
        ⟨default, .markAllNotificationsSeen, ⟨"carol"⟩⟩]).notificationsOf .default "carol").map
          (fun notification => (notification.following.follower, notification.isRead,
            notification.isSeen))
      = [("bob", false, true), ("alice", true, true)] := by
  decide +kernel

end Store

end BlogGateway.Blog
