/-
A change that fails has changed nothing.

Carried out in place, an operation writes step by step and may fail at a step, and nothing
takes back what it has written until then.  Still it ends as the change that is made as a
whole: where it fails, either all that came before were checks, or what it wrote last made no
difference.  `Agrees` says so of the steps of one operation, and the proof follows the steps:
a check goes with the same check of the change, and at the end stands the store that both
have made.

So the two ways to describe an operation are one, and what is proved of changes as a whole
holds of what the gateway does to its store.
-/
import BlogGateway.Blog.InPlace
import BlogGateway.Proofs.Blog.Maps
import BlogGateway.Proofs.Rpc.Run

namespace BlogGateway.Blog

open Operation Std

namespace InPlace

/-! ### Steps beside a change -/

/-- What the steps made of the store is what the change says of it: the store that the change
gives, or its error, and then the store is as it was. -/
inductive Agrees (store : Store) : Outcome Store Unit → Except Rpc.Error Store → Prop
  | ok (after : Store) : Agrees store ⟨.ok (), after, []⟩ (.ok after)
  | error (error : Rpc.Error) : Agrees store ⟨.error error, store, []⟩ (.error error)

namespace Agrees

variable {store : Store} {change : Except Rpc.Error Store} {next : Unit → Steps}

/-- A check before anything is written. -/
theorem ensure {held failed : Prop} [Decidable held] [Decidable failed] {error : Rpc.Error}
    (decides : held ↔ ¬ failed) (passed : held → Agrees store (next () store) change) :
    Agrees store ((Run.ensure held error >>= next) store)
      (if failed then .error error else change) := by
  by_cases h : failed
  · rw [if_pos h, Run.ensure_of_neg fun held => decides.mp held h]
    exact .error error
  · rw [if_neg h, Run.ensure_of_pos (decides.mpr h)]
    exact passed (decides.mpr h)

/-- A check after the writing, when to fail it shows that nothing was written. -/
theorem ensure_last {held failed : Prop} [Decidable held] [Decidable failed]
    {error : Rpc.Error} {written : Store} (decides : held ↔ ¬ failed)
    (vain : failed → written = store) :
    Agrees store (Run.ensure held error written)
      (if failed then .error error else .ok written) := by
  by_cases h : failed
  · rw [if_pos h, Run.ensure_of_neg fun held => decides.mp held h, vain h]
    exact .error error
  · rw [if_neg h, Run.ensure_of_pos (decides.mpr h)]
    exact .ok written

theorem requireAdmin {policy : Policy} {account : String}
    (passed : account = policy.adminAccount → Agrees store (next () store) change) :
    Agrees store ((InPlace.requireAdmin policy account >>= next) store)
      (if account ≠ policy.adminAccount then .error notAdmin else change) :=
  .ensure Decidable.not_not.symm passed

theorem requireProfile {account : String} {error : Rpc.Error}
    (passed : account ∈ store.profiles → Agrees store (next () store) change) :
    Agrees store ((InPlace.requireProfile account error >>= next) store)
      (if !store.profiles.contains account then .error error else change) :=
  .ensure (by simp) passed

theorem requireDomain {name : String} {next : Domain → Steps}
    {change : Domain → Except Rpc.Error Store}
    (passed : ∀ domain, Agrees store (next domain store) (change domain)) :
    Agrees store ((InPlace.requireDomain name >>= next) store)
      (match Domain.ofText? name with
        | none => .error noDomain
        | some domain => change domain) := by
  unfold InPlace.requireDomain
  cases Domain.ofText? name with
  | none => exact .error noDomain
  | some domain =>
      rw [Run.require_some_bind]
      exact passed domain

theorem ofExcept {α : Type} {result : Except Rpc.Error α} {next : α → Steps}
    {change : α → Except Rpc.Error Store}
    (passed : ∀ value, Agrees store (next value store) (change value)) :
    Agrees store ((Run.ofExcept result >>= next) store) (result >>= change) := by
  cases result with
  | error error => exact .error error
  | ok value => exact passed value

theorem eq_update {steps : Steps} {change : Change}
    (agrees : Agrees store (steps store) (change store)) :
    steps store = Run.update change store := by
  unfold Run.update
  generalize steps store = outcome at agrees ⊢
  generalize change store = result at agrees ⊢
  cases agrees with
  | ok after => rfl
  | error error => rfl

end Agrees

/-! ### Steps that are taken by several operations -/

variable {policy : Policy} {moment : Moment} {store : Store}

theorem requireProfile_of_mem {account : String} (known : account ∈ store.profiles)
    (error : Rpc.Error) (next : Unit → Steps) :
    (requireProfile account error >>= next) store = next () store := by
  show (Run.ensure (account ∈ store.profiles) error >>= next) store = _
  rw [Run.ensure_of_pos known, Run.pure_bind]

theorem requireProfile_of_notMem {account : String} (unknown : account ∉ store.profiles)
    (error : Rpc.Error) (next : Unit → Steps) :
    (requireProfile account error >>= next) store = ⟨.error error, store, []⟩ := by
  show (Run.ensure (account ∈ store.profiles) error >>= next) store = _
  rw [Run.ensure_of_neg unknown, Run.fail_bind, Run.fail_apply]

theorem takeOut_of_some {domain : Domain} {label : String} {category : Category}
    (found : store.category? domain label = some category) (next : Category → Steps) :
    (takeOut domain label >>= next) store = next category { store with
      categories := store.categories.eraseP (Category.isNamed domain label) } := by
  have taken : takeOut domain label store = ⟨.ok category, { store with
      categories := store.categories.eraseP (Category.isNamed domain label) }, []⟩ := by
    show (Run.require (store.category? domain label) noCategory >>= _) store = _
    rw [found]
    rfl
  rw [Run.bind_of_ok (congrArg Outcome.result taken), taken]
  rfl

theorem takeOut_of_none {domain : Domain} {label : String}
    (absent : store.category? domain label = none) (next : Category → Steps) :
    (takeOut domain label >>= next) store = ⟨.error noCategory, store, []⟩ := by
  have failed : takeOut domain label store = ⟨.error noCategory, store, []⟩ := by
    show (Run.require (store.category? domain label) noCategory >>= _) store = _
    rw [absent]
    rfl
  rw [Run.bind_of_error (congrArg Outcome.result failed), failed]

/-! ### Operations that check first -/

theorem agrees_updateProfile (op : UpdateProfile) :
    Agrees store (updateProfile op store) (Store.updateProfile op store) := by
  unfold updateProfile Store.updateProfile
  cases found : store.profiles[op.account]? with
  | none =>
      have unknown : op.account ∉ store.profiles := by
        rw [ExtTreeMap.mem_iff_isSome_getElem?, found]
        decide
      rw [requireProfile_of_notMem unknown]
      exact .error _
  | some profile =>
      have known : op.account ∈ store.profiles := by
        rw [ExtTreeMap.mem_iff_isSome_getElem?, found]
        rfl
      rw [requireProfile_of_mem known, Run.get_bind, found]
      exact .ofExcept fun _ => .ofExcept fun _ => .ok _

theorem agrees_setAccountTrusted (op : SetAccountTrustedAdmin) :
    Agrees store (setAccountTrusted policy op store)
      (Store.setAccountTrusted policy op store) := by
  refine .requireAdmin fun _ => ?_
  rw [Run.get_bind]
  cases store.profiles[op.blogAccount]? with
  | none => exact .error _
  | some profile => exact .ok _

theorem agrees_follow (op : Follow) :
    Agrees store (follow policy moment op store) (Store.follow policy moment op store) := by
  refine .ensure Nat.not_le.symm fun _ => ?_
  refine .ensure (by simp) fun _ => ?_
  exact .requireProfile fun _ => .ok _

theorem agrees_uploadMedia (op : UploadMedia) :
    Agrees store (uploadMedia policy moment op store)
      (Store.uploadMedia policy moment op store) := by
  refine .requireProfile fun _ => ?_
  cases MediaType.ofText? op.contentType with
  | none => exact .error _
  | some contentType =>
      rw [Run.require_some_bind]
      refine .ensure (by simp) fun _ => ?_
      cases Base64.decode? (Bytes.ofText op.media) with
      | none => exact .error _
      | some bytes => exact .ok _

theorem agrees_addCategory (op : AddCategoryAdmin) :
    Agrees store (addCategory policy op store) (Store.addCategory policy op store) := by
  refine .requireAdmin fun _ => .requireDomain fun domain => ?_
  exact .ensure (by simp) fun _ => .ok _

theorem agrees_upsertDraft (op : UpsertDraft) :
    Agrees store (upsertDraft moment op store) (Store.upsertDraft moment op store) := by
  refine .ensure (by simp) fun _ => ?_
  rw [Run.get_bind]
  cases store.drafts[(⟨op.account, op.id⟩ : Owned)]? with
  | none => exact .ok _
  | some draft => exact .ok _

theorem agrees_castDownvote (op : Operation.Downvote) :
    Agrees store (castDownvote op store) (Store.castDownvote op store) := by
  unfold castDownvote Store.castDownvote
  cases DownvoteReason.ofText? op.reason with
  | none => exact .error _
  | some reason => exact .ok _

/-! ### Operations that take out what they found -/

theorem agrees_removeCategory (op : RemoveCategoryAdmin) :
    Agrees store (removeCategory policy op store) (Store.removeCategory policy op store) := by
  refine .requireAdmin fun _ => .requireDomain fun domain => ?_
  cases found : store.category? domain op.label with
  | none =>
      rw [takeOut_of_none found]
      exact .error _
  | some category =>
      rw [takeOut_of_some found]
      exact .ok _

/-- No place and the first are both the first. -/
theorem toNat_max_one_sub_one (order : UInt32) : (max order 1).toNat - 1 = order.toNat - 1 := by
  show (if order ≤ 1 then 1 else order).toNat - 1 = _
  split
  · rename_i small
    have bound : order.toNat ≤ 1 := UInt32.le_iff_toNat_le.mp small
    show 1 - 1 = _
    omega
  · rfl

theorem agrees_updateCategory (op : UpdateCategoryAdmin) :
    Agrees store (updateCategory policy op store) (Store.updateCategory policy op store) := by
  refine .requireAdmin fun _ => .requireDomain fun domain => ?_
  cases found : store.category? domain op.label with
  | none =>
      rw [takeOut_of_none found]
      exact .error _
  | some category =>
      have own : category.domain = domain := by
        have named := List.find?_some found
        simp only [Category.isNamed, Bool.and_eq_true, decide_eq_true_eq] at named
        exact named.1
      subst own
      rw [takeOut_of_some found]
      dsimp only
      rw [← Category.insertIdx_indexIn, toNat_max_one_sub_one]
      exact .ok _

/-! ### Operations that remove first and ask later -/

theorem agrees_removeFromBlacklist (op : RemoveFromBlacklistAdmin) :
    Agrees store (removeFromBlacklist policy op store)
      (Store.removeFromBlacklist policy op store) := by
  refine .requireAdmin fun _ => .ensure_last (by simp) fun absent => ?_
  have unlisted : ⟨op.blogAccount, op.permlink⟩ ∉ store.blacklist := by
    intro listed
    rw [ExtTreeSet.mem_iff_contains] at listed
    rw [listed] at absent
    cases absent
  show { store with blacklist := store.blacklist.erase _ } = store
  rw [erase_of_notMem_set unlisted]

theorem agrees_removeDraft (op : RemoveDraft) :
    Agrees store (removeDraft op store) (Store.removeDraft op store) := by
  refine .ensure_last (by simp) fun absent => ?_
  have unsaved : ⟨op.account, op.id⟩ ∉ store.drafts := by
    intro saved
    rw [ExtTreeMap.mem_iff_contains] at saved
    rw [saved] at absent
    cases absent
  show { store with drafts := store.drafts.erase _ } = store
  rw [erase_of_notMem unsaved]

/-- As many downvotes are left as there were exactly when none of them was the one. -/
theorem agrees_removeDownvote (op : RemoveDownvote) :
    Agrees store (removeDownvote op store) (Store.removeDownvote op store) := by
  show Agrees store (Run.ensure
    ((store.downvotes.filter _).length ≠ store.downvotes.length) _ { store with
      downvotes := store.downvotes.filter _ }) _
  refine .ensure_last (by simp) fun absent => ?_
  have uncast : ∀ downvote ∈ store.downvotes,
      Downvote.isCast op.account op.author op.permlink downvote = false := by
    simpa using absent
  rw [List.filter_eq_self.mpr fun downvote hmem => by simp [uncast downvote hmem]]

/-! ### All kinds -/

/-- The steps of every kind of operation end as its change says. -/
theorem agrees_apply (kind : Kind) (op : Body kind) :
    Agrees store (apply policy moment kind op store)
      (Store.apply policy moment kind op store) := by
  cases kind with
  | updateProfile => exact agrees_updateProfile op
  | follow => exact agrees_follow op
  | uploadMedia => exact agrees_uploadMedia op
  | addToBlacklistAdmin => exact .requireAdmin fun _ => .requireProfile fun _ => .ok _
  | removeFromBlacklistAdmin => exact agrees_removeFromBlacklist op
  | addCategoryAdmin => exact agrees_addCategory op
  | removeCategoryAdmin => exact agrees_removeCategory op
  | updateCategoryAdmin => exact agrees_updateCategory op
  | setAccountTrustedAdmin => exact agrees_setAccountTrusted op
  | upsertDraft => exact agrees_upsertDraft op
  | removeDraft => exact agrees_removeDraft op
  | downvote => exact agrees_castDownvote op
  | removeDownvote => exact agrees_removeDownvote op
  | register | unfollow | markNotificationRead | markAllNotificationsRead
  | markAllNotificationsSeen | updateProfileSettings | registerPushToken => exact .ok _

/-- Carried out in place, an operation does what its change does. -/
theorem apply_eq_update (policy : Policy) (moment : Moment) (kind : Kind) (op : Body kind) :
    apply policy moment kind op = Run.update (Store.apply policy moment kind op) := by
  funext store
  exact (agrees_apply kind op).eq_update

/--
**An operation that fails leaves the store as it was.**

This holds of every store, whether operations have made it or not, and wherever the operation
fails, also behind a step that writes.
-/
theorem store_kept_of_failed (policy : Policy) (moment : Moment) (store : Store) (kind : Kind)
    (op : Body kind) (error : Rpc.Error)
    (failed : (apply policy moment kind op store).result = .error error) :
    (apply policy moment kind op store).state = store := by
  rw [apply_eq_update] at failed ⊢
  exact Run.state_update_of_error failed

/-- A store in which carol has downvoted what alice wants to take her downvote from. -/
private def carolsDownvote : Store :=
  { downvotes := [⟨"carol", "bob", "post", .spam, ""⟩] }

/-- Alice's downvote is removed before it turns out that there is none. -/
theorem carols_downvote_kept :
    (apply .default default .removeDownvote (⟨"alice", "bob", "post"⟩ : RemoveDownvote)
      carolsDownvote).result = .error (.of .downvoteNotFound "downvote not found") ∧
    (apply .default default .removeDownvote (⟨"alice", "bob", "post"⟩ : RemoveDownvote)
      carolsDownvote).state = carolsDownvote := by
  have failed : (apply .default default .removeDownvote
      (⟨"alice", "bob", "post"⟩ : RemoveDownvote) carolsDownvote).result
        = .error (.of .downvoteNotFound "downvote not found") := by rfl
  exact ⟨failed, store_kept_of_failed .default default carolsDownvote .removeDownvote
    (⟨"alice", "bob", "post"⟩ : RemoveDownvote) _ failed⟩

end InPlace

end BlogGateway.Blog
