/-
The same operation once more.

Nobody remembers which operations have been carried out, so one that arrives again is carried
out again.  Right after the first time that does no harm, and for one of three reasons: there
is nothing left to do, and the operation fails; it writes what is there already; or, for a
category, it takes out the one that it has put in its place and puts it back there, for which
the names of categories have to differ.

The second time is later than the first, but only a draft that is saved remembers when.
-/
import BlogGateway.Proofs.Blog.Categories

namespace BlogGateway.Blog

open Operation Std

/-! ### Writing what is there -/

theorem filter_again {α : Type} (p : α → Bool) (items : List α) :
    (items.filter p).filter p = items.filter p := by
  simp only [List.filter_filter, Bool.and_self]

theorem map_again {α : Type} {change : α → α} (again : ∀ a, change (change a) = change a)
    (items : List α) : (items.map change).map change = items.map change := by
  rw [List.map_map]
  exact List.map_congr_left fun a _ => again a

/-- A downvote takes its own place. -/
theorem Downvote.put_put (downvote : Downvote) (downvotes : List Downvote) :
    downvote.put (downvote.put downvotes) = downvote.put downvotes := by
  have own : downvote.isCast downvote.account downvote.author downvote.permlink = true := by
    simp [isCast, isOn]
  induction downvotes with
  | nil => rw [put, put, if_pos own]
  | cons other rest ih =>
      rw [put]
      split
      · rw [put, if_pos own]
      · rename_i different
        rw [put, if_neg different, ih]

namespace Store

variable {policy : Policy} {moment moment' : Moment} {store once twice : Store} {kind : Kind}
  {op : Body kind}

/-! ### The second time -/

/-- Whether an operation succeeds does not depend on when it comes. -/
theorem Does.exists_at (does : Does policy moment store kind op once) (moment' : Moment) :
    ∃ later, Does policy moment' store kind op later := by
  cases does with
  | register op => exact ⟨_, .register op⟩
  | updateProfile op found avatar cover => exact ⟨_, .updateProfile op found avatar cover⟩
  | follow op room new known => exact ⟨_, .follow op room new known⟩
  | unfollow op => exact ⟨_, .unfollow op⟩
  | uploadMedia op known typed new decoded => exact ⟨_, .uploadMedia op known typed new decoded⟩
  | addToBlacklist op admin known => exact ⟨_, .addToBlacklist op admin known⟩
  | removeFromBlacklist op admin listed => exact ⟨_, .removeFromBlacklist op admin listed⟩
  | addCategory op admin named new => exact ⟨_, .addCategory op admin named new⟩
  | removeCategory op admin named found => exact ⟨_, .removeCategory op admin named found⟩
  | updateCategory op admin named found => exact ⟨_, .updateCategory op admin named found⟩
  | setAccountTrusted op admin found => exact ⟨_, .setAccountTrusted op admin found⟩
  | upsertDraft op said _ => exact ⟨_, .upsertDraft op said rfl⟩
  | removeDraft op kept => exact ⟨_, .removeDraft op kept⟩
  | markNotificationRead op => exact ⟨_, .markNotificationRead op⟩
  | markAllNotificationsRead op => exact ⟨_, .markAllNotificationsRead op⟩
  | markAllNotificationsSeen op => exact ⟨_, .markAllNotificationsSeen op⟩
  | updateProfileSettings op => exact ⟨_, .updateProfileSettings op⟩
  | registerPushToken op => exact ⟨_, .registerPushToken op⟩
  | castDownvote op reasoned => exact ⟨_, .castDownvote op reasoned⟩
  | removeDownvote op cast => exact ⟨_, .removeDownvote op cast⟩

/-- Who succeeds the second time writes what is there already. -/
theorem eq_of_does_does (differ : NamesDiffer store) (other : kind ≠ .upsertDraft)
    (first : Does policy moment store kind op once)
    (second : Does policy moment' once kind op twice) : twice = once := by
  cases first with
  | register =>
      cases second
      rw [insertIfNew_of_mem ExtTreeMap.mem_insertIfNew_self,
        insertIfNew_of_mem ExtTreeMap.mem_insertIfNew_self]
  | updateProfile op found avatar cover =>
      cases second with
      | updateProfile _ found' avatar' cover' =>
        rw [ExtTreeMap.getElem?_insert_self] at found'
        obtain rfl := Option.some.inj found'
        rw [insert_insert]
  | follow op room new known =>
      cases second with
      | follow _ room' new' known' => simp [isFollowing] at new'
  | unfollow =>
      cases second
      rw [filter_again, filter_again]
  | uploadMedia op known typed new decoded =>
      cases second with
      | uploadMedia _ known' typed' new' decoded' =>
        exact absurd ExtTreeMap.mem_insert_self new'
  | addToBlacklist | registerPushToken =>
      cases second
      rw [insert_insert_set]
  | removeFromBlacklist op admin listed =>
      cases second with
      | removeFromBlacklist _ admin' listed' => exact absurd listed' notMem_erase_self_set
  | @addCategory op domain admin named new =>
      cases second with
      | addCategory _ admin' named' new' =>
        obtain rfl := Option.some.inj (named.symm.trans named')
        refine absurd ?_ (category?_eq_none_iff.mp new')
        rw [Category.map_name_renumber, List.map_append]
        exact List.mem_append_right _ List.mem_cons_self
  | @removeCategory op domain category admin named found =>
      cases second with
      | removeCategory _ admin' named' found' =>
        obtain rfl := Option.some.inj (named.symm.trans named')
        have left := mem_names_of_category? found'
        rw [Category.map_name_renumber, Category.map_name_eraseP] at left
        exact absurd left differ.not_mem_erase
  | @updateCategory op domain category admin named found =>
      cases second with
      | updateCategory _ admin' named' found' =>
        obtain rfl := Option.some.inj (named.symm.trans named')
        rw [Category.move_again differ (name_of_category? found) _ _ rfl found']
  | setAccountTrusted op admin found =>
      cases second with
      | setAccountTrusted _ admin' found' =>
        rw [ExtTreeMap.getElem?_insert_self] at found'
        obtain rfl := Option.some.inj found'
        rw [insert_insert]
  | upsertDraft => exact absurd rfl other
  | removeDraft op kept =>
      cases second with
      | removeDraft _ kept' => exact absurd kept' notMem_erase_self
  | markNotificationRead | markAllNotificationsRead | markAllNotificationsSeen =>
      cases second
      rw [map_again]
      intro notification
      split <;> simp [*]
  | updateProfileSettings =>
      cases second
      rw [insert_insert]
  | castDownvote op reasoned =>
      cases second with
      | castDownvote _ reasoned' =>
        obtain rfl := Option.some.inj (reasoned.symm.trans reasoned')
        rw [Downvote.put_put]
  | removeDownvote op cast =>
      cases second with
      | removeDownvote _ cast' => simp at cast'

/-- A draft that is saved again is the same draft, saved later. -/
theorem drafts_of_does_does {op : UpsertDraft}
    (first : Does policy moment store .upsertDraft op once)
    (second : Does policy moment' once .upsertDraft op twice) :
    twice = { once with
      drafts := once.drafts.modify ⟨op.account, op.id⟩ fun draft =>
        { draft with updatedAt := moment'.now } } := by
  cases first with
  | upsertDraft _ said created =>
      cases second with
      | upsertDraft _ said' created' =>
        rw [ExtTreeMap.getElem?_insert_self] at created'
        subst created'
        rw [modify_insert, insert_insert]

/-- What a second time at the given moment makes of the store: nothing else, except that a
draft that is saved was last saved at that moment. -/
def SameAgain (moment : Moment) : (kind : Kind) → Body kind → Store → Store → Prop
  | .upsertDraft, (op : UpsertDraft), once, twice =>
    twice = if op.body = "" ∧ op.title = "" then once
      else { once with
        drafts := once.drafts.modify ⟨op.account, op.id⟩ fun draft =>
          { draft with updatedAt := moment.now } }
  | _, _, once, twice => twice = once

/-- Who fails the second time leaves the store as it is. -/
theorem sameAgain_of_error {error : Rpc.Error}
    (failed : apply policy moment kind op store = .error error) :
    SameAgain moment kind op store store := by
  cases kind with
  | upsertDraft =>
      change UpsertDraft at op
      refine (if_pos (Decidable.byContradiction fun said => ?_)).symm
      rw [apply_of_does (.upsertDraft op said rfl)] at failed
      cases failed
  | _ => rfl

theorem sameAgain_of_does_does (differ : NamesDiffer store)
    (first : Does policy moment store kind op once)
    (second : Does policy moment' once kind op twice) :
    SameAgain moment' kind op once twice := by
  cases kind with
  | upsertDraft =>
      refine (drafts_of_does_does first second).trans (if_neg ?_).symm
      cases first with
      | upsertDraft _ said => exact said
  | _ => exact eq_of_does_does differ (by decide) first second

/-- An operation that comes twice in a row does the second time nothing that it has not done
the first time, as long as the names of categories differ. -/
theorem NamesDiffer.sameAgain (differ : NamesDiffer store) (policy : Policy)
    (moment moment' : Moment) (kind : Kind) (op : Body kind) :
    SameAgain moment' kind op (store.perform policy moment kind op)
      ((store.perform policy moment kind op).perform policy moment' kind op) := by
  cases second : apply policy moment' kind op (store.perform policy moment kind op) with
  | error error =>
      rw [perform_of_error second]
      exact sameAgain_of_error second
  | ok twice =>
      rw [perform_of_ok second]
      cases first : apply policy moment kind op store with
      | error error =>
          -- what fails at one moment does not succeed at another
          rw [perform_of_error first] at second
          obtain ⟨after, does⟩ := (does_of_apply second).exists_at moment
          rw [apply_of_does does] at first
          cases first
      | ok once =>
          rw [perform_of_ok first] at second ⊢
          exact sameAgain_of_does_does differ (does_of_apply first) (does_of_apply second)

/--
**What is done again is done already.**

In every store that a blog comes to, an operation of any kind that is carried out twice in a
row, whether it succeeds or fails each time, leaves the store that it leaves when it is carried
out once, except that a draft that is saved twice was last saved the second time.
-/
theorem Reachable.done_already (reached : Reachable policy store) (moment moment' : Moment)
    (kind : Kind) (op : Body kind) :
    SameAgain moment' kind op (store.perform policy moment kind op)
      ((store.perform policy moment kind op).perform policy moment' kind op) :=
  reached.namesDiffer.sameAgain policy moment moment' kind op

/-- Three categories of one domain, and between them one of the other. -/
private def fourCategories : Store :=
  Store.empty
    |>.perform .default default .addCategoryAdmin
      (⟨"admin", "com", "news", "category_news"⟩ : AddCategoryAdmin)
    |>.perform .default default .addCategoryAdmin
      (⟨"admin", "com", "art", "category_art"⟩ : AddCategoryAdmin)
    |>.perform .default default .addCategoryAdmin
      (⟨"admin", "me", "news", "category_news"⟩ : AddCategoryAdmin)
    |>.perform .default default .addCategoryAdmin
      (⟨"admin", "com", "sport", "category_sport"⟩ : AddCategoryAdmin)

private theorem reachable_fourCategories : Reachable .default fourCategories :=
  (((Reachable.empty.perform _ _ _).perform _ _ _).perform _ _ _).perform _ _ _

/-- Moves the news of that domain to the second place. -/
private def moveNews : UpdateCategoryAdmin := ⟨"admin", "com", "news", 2, "category_news"⟩

/-- The news are moved behind art, and stay there when they are moved again. -/
theorem news_moved_once :
    Reachable .default fourCategories ∧
    (fourCategories.perform .default default .updateCategoryAdmin moveNews
      |>.perform .default default .updateCategoryAdmin moveNews).categories.map
        (fun category => (category.domain, category.label, category.order.toNat))
      = [(.com, "art", 1), (.me, "news", 1), (.com, "news", 2), (.com, "sport", 3)] := by
  refine ⟨reachable_fourCategories, ?_⟩
  have same : _ = _ := Reachable.done_already reachable_fourCategories default default
    .updateCategoryAdmin moveNews
  rw [same]
  decide +kernel

end Store

end BlogGateway.Blog
