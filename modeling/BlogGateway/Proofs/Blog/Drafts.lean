/-
Drafts, told from the history.

A draft is kept under its account and its id.  To save one writes over the one that is there, but
for the time of its creation, and to remove it takes that away.  So a draft `Stands` as it was
saved last, when nothing has been saved under its name and it has not been removed since, and it
was created when something was first saved under its name since the last removal.  Nothing else
that is done to the blog concerns it.

The drafts of an account are listed by the time of saving and then by id.  Two of them have not
the same id, so the order leaves nothing open, and in whatever order the drafts are gone through
the sorted listing is one.  When the clock advances with each deed, the order is that of the
deeds: what was saved last comes first.
-/
import BlogGateway.Blog.View
import BlogGateway.Proofs.Blog.History
import BlogGateway.Proofs.Blog.Maps
import Mathlib.Data.List.Nodup

namespace BlogGateway.Blog

open Operation Std History

/-! ### What deeds do to drafts -/

/-- What a draft is kept under. -/
def Draft.key (draft : Draft) : Owned := ⟨draft.account, draft.id⟩

/-- The deed saves the draft, whenever it was created.  One without title and body is not saved. -/
inductive Deed.Saves : Deed → Draft → Prop
  | upsertDraft (moment : Moment) (op : UpsertDraft) (said : ¬ (op.body = "" ∧ op.title = ""))
      (createdAt : Timestamp) :
      Saves ⟨moment, .upsertDraft, op⟩
        ⟨op.id, op.account, op.title, op.body, op.jsonMetadata, createdAt, moment.now⟩

/-- The deed saves a draft under the name. -/
def Deed.SavesUnder (key : Owned) (deed : Deed) : Prop :=
  ∃ draft, deed.Saves draft ∧ draft.key = key

/-- The deed removes the draft under the name, if there is one. -/
inductive Deed.Discards : Owned → Deed → Prop
  | removeDraft (moment : Moment) (op : RemoveDraft) :
      Discards ⟨op.account, op.id⟩ ⟨moment, .removeDraft, op⟩

/-- The deed concerns the draft under the name. -/
def Deed.Rewrites (key : Owned) (deed : Deed) : Prop := deed.SavesUnder key ∨ deed.Discards key

section Deeds

variable {deed : Deed} {draft draft' : Draft} {key key' : Owned}

/-- All that a deed does not say of the draft that it saves is when that was created. -/
theorem Deed.Saves.eq_with (saves : deed.Saves draft) (saves' : deed.Saves draft') :
    draft' = { draft with createdAt := draft'.createdAt } := by
  cases saves with
  | upsertDraft moment op said createdAt =>
      cases saves' with
      | upsertDraft => rfl

theorem Deed.Saves.exists_created (saves : deed.Saves draft) (createdAt : Timestamp) :
    ∃ draft', deed.Saves draft' ∧ draft'.key = draft.key ∧ draft'.createdAt = createdAt := by
  cases saves with
  | upsertDraft moment op said _ => exact ⟨_, .upsertDraft moment op said createdAt, rfl, rfl⟩

theorem Deed.Saves.updatedAt (saves : deed.Saves draft) : draft.updatedAt = deed.moment.now := by
  cases saves
  rfl

theorem Deed.Saves.said (saves : deed.Saves draft) : ¬ (draft.body = "" ∧ draft.title = "") := by
  cases saves with
  | upsertDraft moment op said => exact said

theorem Deed.SavesUnder.not_discards (saves : deed.SavesUnder key) : ¬ deed.Discards key' := by
  obtain ⟨draft, saves, -⟩ := saves
  intro discards
  cases saves
  cases discards

/-- A deed concerns one draft at most, and that is one of its own account. -/
theorem Deed.Rewrites.unique (rewrites : deed.Rewrites key) (rewrites' : deed.Rewrites key') :
    key = key' := by
  rcases rewrites with ⟨draft, saves, rfl⟩ | discards
  · rcases rewrites' with ⟨draft', saves', rfl⟩ | discards'
    · rw [saves.eq_with saves']
      rfl
    · exact absurd discards' (Deed.SavesUnder.not_discards ⟨draft, saves, rfl⟩)
  · rcases rewrites' with saves' | discards'
    · exact absurd discards saves'.not_discards
    · cases discards
      cases discards'
      rfl

theorem Deed.Rewrites.account (rewrites : deed.Rewrites key) :
    Body.account deed.op = key.account := by
  rcases rewrites with ⟨draft, saves, rfl⟩ | discards
  · cases saves
    rfl
  · cases discards
    rfl

end Deeds

/-- A deed saves a draft, or removes one, or concerns none. -/
theorem Deed.saves_or_discards (deed : Deed) :
    (∃ draft, deed.Saves draft) ∨ (∃ key, deed.Discards key) ∨ ∀ key, ¬ deed.Rewrites key := by
  obtain ⟨moment, kind, op⟩ := deed
  cases kind with
  | upsertDraft =>
      by_cases said : UpsertDraft.body op = "" ∧ UpsertDraft.title op = ""
      · refine .inr (.inr ?_)
        rintro key (⟨draft, saves, -⟩ | discards)
        · cases saves with
          | upsertDraft _ _ said' => exact said' said
        · cases discards
      · exact .inl ⟨_, .upsertDraft moment op said moment.now⟩
  | removeDraft => exact .inr (.inl ⟨_, .removeDraft moment op⟩)
  | _ =>
      refine .inr (.inr ?_)
      rintro key (⟨draft, saves, -⟩ | discards)
      · cases saves
      · cases discards

/-- What becomes of the draft under a name by a deed. -/
inductive Deed.Redrafts (key : Owned) (deed : Deed) (old : Option Draft) : Option Draft → Prop
  | save {draft : Draft} (saves : deed.Saves draft) (own : draft.key = key)
      (created : draft.createdAt = match old with
        | some old => old.createdAt
        | none => deed.moment.now) : Redrafts key deed old (some draft)
  | discard (discards : deed.Discards key) : Redrafts key deed old none
  | leave (untouched : ¬ deed.Rewrites key) : Redrafts key deed old old

namespace Store

section Perform

variable (policy : Policy) (store : Store) {deed : Deed} {draft : Draft} {key : Owned}

theorem drafts_of_saves (saves : deed.Saves draft)
    (created : draft.createdAt = match store.drafts[draft.key]? with
      | some old => old.createdAt
      | none => deed.moment.now) :
    (store.performDeed policy deed).drafts = store.drafts.insert draft.key draft := by
  cases saves with
  | upsertDraft moment op said createdAt =>
      unfold performDeed
      rw [perform_of_ok (apply_of_does (.upsertDraft op said created))]
      rfl

/-- To remove a draft that is not there fails, and leaves as little of it. -/
theorem drafts_of_discards (discards : deed.Discards key) :
    (store.performDeed policy deed).drafts = store.drafts.erase key := by
  cases discards with
  | removeDraft moment op =>
      unfold performDeed
      by_cases kept : (⟨op.account, op.id⟩ : Owned) ∈ store.drafts
      · rw [perform_of_ok (apply_of_does (.removeDraft op kept))]
      · have failed : apply policy moment .removeDraft op store = .error noDraft := by
          simp [apply, removeDraft, kept]
        rw [perform_of_error failed, erase_of_notMem kept]

theorem drafts_of_untouched (untouched : ∀ key, ¬ deed.Rewrites key) :
    (store.performDeed policy deed).drafts = store.drafts := by
  obtain ⟨moment, kind, op⟩ := deed
  have kept : ∀ {after : Store}, Does policy moment store kind op after →
      after.drafts = store.drafts := by
    intro after does
    cases does with
    | upsertDraft op said created =>
        exact absurd (.inl ⟨_, .upsertDraft moment op said moment.now, rfl⟩) (untouched _)
    | removeDraft op kept => exact absurd (.inr (.removeDraft moment op)) (untouched _)
    | _ => rfl
  refine perform_invariant ?_ kept
  rfl

theorem redrafts_performDeed (deed : Deed) (key : Owned) :
    deed.Redrafts key store.drafts[key]? (store.performDeed policy deed).drafts[key]? := by
  obtain ⟨draft, saves⟩ | ⟨key', discards⟩ | untouched := deed.saves_or_discards
  · -- the draft that is saved is the one of the name that keeps the time of the old one
    obtain ⟨draft, saves, same, created⟩ := saves.exists_created
      (match store.drafts[draft.key]? with
        | some old => old.createdAt
        | none => deed.moment.now)
    rw [← same] at created
    rw [drafts_of_saves policy store saves created]
    by_cases own : draft.key = key
    · subst own
      rw [ExtTreeMap.getElem?_insert_self]
      exact .save saves rfl created
    · rw [ExtTreeMap.getElem?_insert, if_neg (mt Std.compare_eq_iff_eq.mp own)]
      exact .leave fun rewrites => own (Deed.Rewrites.unique (.inl ⟨_, saves, rfl⟩) rewrites)
  · rw [drafts_of_discards policy store discards]
    by_cases own : key' = key
    · subst own
      rw [ExtTreeMap.getElem?_erase_self]
      exact .discard discards
    · rw [ExtTreeMap.getElem?_erase, if_neg (mt Std.compare_eq_iff_eq.mp own)]
      exact .leave fun rewrites => own (Deed.Rewrites.unique (.inr discards) rewrites)
  · rw [drafts_of_untouched policy store untouched]
    exact .leave (untouched key)

end Perform

end Store

/-! ### What the history tells -/

/-- Something has been saved under the name, and has not been removed since. -/
def HasDraft (key : Owned) : List Deed → Prop := Since (Deed.SavesUnder key) (Deed.Discards key)

/-- At that time something was saved under the name for the first time since the last removal. -/
def DraftBegun (key : Owned) (deeds : List Deed) (time : Timestamp) : Prop :=
  ∃ i, FirstSince (Deed.SavesUnder key) (Deed.Discards key) deeds i ∧
    At (·.moment.now = time) deeds i

/-- The deed at the place has saved the draft, and since then nothing has been saved under its
name and it has not been removed. -/
def Draft.SavedBy (draft : Draft) (deeds : List Deed) (i : Nat) : Prop :=
  At (·.Saves draft) deeds i ∧ ∀ j, i < j → ¬ At (Deed.Rewrites draft.key) deeds j

/-- The draft is what the history has left under its name. -/
def Draft.Stands (draft : Draft) (deeds : List Deed) : Prop :=
  (∃ i, draft.SavedBy deeds i) ∧ DraftBegun draft.key deeds draft.createdAt

section Told

variable {deeds : List Deed} {deed : Deed} {draft : Draft} {key : Owned} {time time' : Timestamp}

theorem draftBegun_snoc : DraftBegun key (deeds ++ [deed]) time ↔
    DraftBegun key deeds time ∧ ¬ deed.Discards key ∨
      deed.SavesUnder key ∧ ¬ HasDraft key deeds ∧ deed.moment.now = time := by
  unfold DraftBegun
  constructor
  · rintro ⟨i, first, timed⟩
    rcases firstSince_snoc.mp first with ⟨first, kept⟩ | ⟨rfl, saves, new⟩
    · exact .inl ⟨⟨i, first, (at_snoc_of_lt first.done.lt_length).mp timed⟩, kept⟩
    · exact .inr ⟨saves, new, at_snoc_length.mp timed⟩
  · rintro (⟨⟨i, first, timed⟩, kept⟩ | ⟨saves, new, timed⟩)
    · exact ⟨i, firstSince_snoc.mpr (.inl ⟨first, kept⟩), at_snoc.mpr (.inl timed)⟩
    · exact ⟨_, firstSince_snoc.mpr (.inr ⟨rfl, saves, new⟩), at_snoc_length.mpr timed⟩

theorem DraftBegun.unique (begun : DraftBegun key deeds time)
    (begun' : DraftBegun key deeds time') : time = time' := by
  obtain ⟨i, first, timed⟩ := begun
  obtain ⟨j, first', timed'⟩ := begun'
  obtain rfl := first.unique first'
  obtain ⟨deed, rfl, rfl⟩ := timed.both timed'
  rfl

theorem Draft.stands_snoc : draft.Stands (deeds ++ [deed]) ↔
    (deed.Saves draft ∨ (∃ i, draft.SavedBy deeds i) ∧ ¬ deed.Rewrites draft.key) ∧
      DraftBegun draft.key (deeds ++ [deed]) draft.createdAt :=
  and_congr_left' since_snoc

/-- A draft that a deed does not concern stands as it has stood. -/
theorem Draft.stands_snoc_of_untouched (untouched : ¬ deed.Rewrites draft.key) :
    draft.Stands (deeds ++ [deed]) ↔ draft.Stands deeds := by
  have saves : ¬ deed.SavesUnder draft.key := fun saves => untouched (.inl saves)
  have discards : ¬ deed.Discards draft.key := fun discards => untouched (.inr discards)
  have saved : ¬ deed.Saves draft := fun saved => saves ⟨draft, saved, rfl⟩
  rw [stands_snoc, draftBegun_snoc, or_iff_right saved, and_iff_left untouched,
    and_iff_left discards, or_iff_left fun begun => saves begun.1]
  rfl

end Told

namespace Store

variable (policy : Policy) (deeds : List Deed) {draft : Draft} {key : Owned}

theorem isSome_drafts_iff (key : Owned) :
    (after policy deeds).drafts[key]?.isSome = true ↔ HasDraft key deeds := by
  induction deeds using List.reverseRecOn with
  | nil => exact iff_of_false Bool.false_ne_true not_since_nil
  | append_singleton deeds deed ih =>
      have redrafts := redrafts_performDeed policy (after policy deeds) deed key
      rw [HasDraft, since_snoc, after_snoc]
      generalize ((after policy deeds).performDeed policy deed).drafts[key]? = new at redrafts ⊢
      cases redrafts with
      | @save draft saves own => exact iff_of_true rfl (.inl ⟨draft, saves, own⟩)
      | discard discards =>
          refine iff_of_false Bool.false_ne_true ?_
          rintro (saves | ⟨-, kept⟩)
          · exact saves.not_discards discards
          · exact kept discards
      | leave untouched =>
          rw [ih, or_iff_right fun saves => untouched (.inl saves),
            and_iff_left fun discards => untouched (.inr discards)]
          rfl

/-- A draft is kept as the history has left it. -/
theorem getElem?_drafts_iff :
    (after policy deeds).drafts[key]? = some draft ↔ draft.key = key ∧ draft.Stands deeds := by
  induction deeds using List.reverseRecOn generalizing draft with
  | nil =>
      refine iff_of_false (fun found => nomatch found) ?_
      rintro ⟨-, saved, -⟩
      exact not_since_nil saved
  | append_singleton deeds deed ih =>
      have redrafts := redrafts_performDeed policy (after policy deeds) deed key
      have known := isSome_drafts_iff policy deeds key
      rw [after_snoc]
      generalize ((after policy deeds).performDeed policy deed).drafts[key]? = new at redrafts ⊢
      cases redrafts with
      | @save saved saves own created =>
          subst own
          have under : deed.SavesUnder saved.key := ⟨saved, saves, rfl⟩
          have begun : DraftBegun saved.key (deeds ++ [deed]) saved.createdAt := by
            rw [draftBegun_snoc, and_iff_left under.not_discards, and_iff_right under]
            split at created
            · rename_i old found
              rw [created]
              obtain ⟨same, -, begun⟩ := ih.mp found
              exact .inl (same ▸ begun)
            · rename_i absent
              rw [absent] at known
              exact .inr ⟨mt known.mpr Bool.false_ne_true, created.symm⟩
          constructor
          · intro same
            obtain rfl := Option.some.inj same
            exact ⟨rfl, Draft.stands_snoc.mpr ⟨.inl saves, begun⟩⟩
          · rintro ⟨own, stands⟩
            obtain ⟨saves' | ⟨-, kept⟩, begun'⟩ := Draft.stands_snoc.mp stands
            · -- what the deed says of both is the same, and so is the time of their creation
              rw [own] at begun'
              rw [saves.eq_with saves', begun'.unique begun]
            · exact absurd (.inl (own ▸ under)) kept
      | discard discards =>
          refine iff_of_false (fun found => nomatch found) ?_
          rintro ⟨rfl, stands⟩
          rcases (Draft.stands_snoc.mp stands).1 with saves | ⟨-, kept⟩
          · exact Deed.SavesUnder.not_discards ⟨draft, saves, rfl⟩ discards
          · exact kept (.inr discards)
      | leave untouched =>
          rw [ih]
          refine and_congr_right ?_
          rintro rfl
          exact (Draft.stands_snoc_of_untouched untouched).symm

end Store

/-! ### Listings -/

namespace Draft

variable {a b : Draft}

theorem before_iff : before a b = true ↔
    b.updatedAt.nanoseconds < a.updatedAt.nanoseconds ∨
      b.updatedAt.nanoseconds = a.updatedAt.nanoseconds ∧ a.id ≤ b.id := by
  simp [before]

theorem before_trans (a b c : Draft) (hab : before a b = true) (hbc : before b c = true) :
    before a c = true := by
  rw [before_iff] at hab hbc ⊢
  rcases hab with later | ⟨same, le⟩
  · rcases hbc with later' | ⟨same', -⟩
    · exact .inl (Nat.lt_trans later' later)
    · exact .inl (same' ▸ later)
  · rcases hbc with later' | ⟨same', le'⟩
    · exact .inl (same ▸ later')
    · exact .inr ⟨same'.trans same, String.le_trans le le'⟩

theorem before_total (a b : Draft) : (before a b || before b a) = true := by
  rw [Bool.or_eq_true, before_iff, before_iff]
  rcases Nat.lt_trichotomy a.updatedAt.nanoseconds b.updatedAt.nanoseconds with less | same | more
  · exact .inr (.inl less)
  · rcases String.le_total a.id b.id with le | le
    · exact .inl (.inr ⟨same.symm, le⟩)
    · exact .inr (.inr ⟨same, le⟩)
  · exact .inl (.inl more)

/-- The order tells drafts apart that have different ids. -/
theorem id_eq_of_before (hab : before a b = true) (hba : before b a = true) : a.id = b.id := by
  rw [before_iff] at hab hba
  rcases hab with later | ⟨same, le⟩
  · rcases hba with later' | ⟨same', -⟩
    · exact absurd later' (Nat.lt_asymm later)
    · exact absurd later (same' ▸ Nat.lt_irrefl _)
  · rcases hba with later' | ⟨-, le'⟩
    · exact absurd later' (same ▸ Nat.lt_irrefl _)
    · exact String.le_antisymm le le'

end Draft

namespace Store

variable {store : Store} {account : String} {draft : Draft}

/-- Drafts are kept under their own names. -/
def DraftsNamed (store : Store) : Prop :=
  ∀ (key : Owned) (draft : Draft), store.drafts[key]? = some draft → draft.key = key

theorem draftsNamed_after (policy : Policy) (deeds : List Deed) :
    DraftsNamed (after policy deeds) := fun _ _ found =>
  ((getElem?_drafts_iff policy deeds).mp found).1

namespace DraftsNamed

theorem mem_draftsOf (named : DraftsNamed store) :
    draft ∈ store.draftsOf account ↔
      draft.account = account ∧ store.drafts[draft.key]? = some draft := by
  rw [draftsOf, List.mem_mergeSort, List.mem_filter, mem_values_iff, decide_eq_true_iff, and_comm]
  refine and_congr_right fun _ => ⟨?_, fun found => ⟨_, found⟩⟩
  rintro ⟨key, found⟩
  rwa [named key draft found]

/-- No two drafts of an account have one id. -/
theorem nodup_ids (named : DraftsNamed store) (account : String) :
    ((store.draftsOf account).map Draft.id).Nodup := by
  have differ : store.drafts.values.Pairwise fun draft draft' => draft.key ≠ draft'.key := by
    refine pairwise_values fun key key' draft draft' found found' less same => ?_
    rw [named key draft found, named key' draft' found'] at same
    rw [same, ReflOrd.compare_self] at less
    cases less
  have own : (store.drafts.values.filter (·.account = account)).Pairwise
      fun draft draft' => draft.id ≠ draft'.id := by
    refine (differ.filter _).imp_of_mem fun hmem hmem' ne same => ne ?_
    have account_eq := of_decide_eq_true (List.mem_filter.mp hmem).2
    have account_eq' := of_decide_eq_true (List.mem_filter.mp hmem').2
    rw [Draft.key, Draft.key, account_eq, account_eq', same]
  rw [draftsOf, ((List.mergeSort_perm _ _).map Draft.id).nodup_iff]
  exact List.pairwise_map.mpr own

theorem eq_of_before (named : DraftsNamed store) :
    ∀ a ∈ store.draftsOf account, ∀ b ∈ store.draftsOf account,
      Draft.before a b = true → Draft.before b a = true → a = b :=
  fun _ ha _ hb hab hba =>
    List.inj_on_of_nodup_map (named.nodup_ids account) ha hb (Draft.id_eq_of_before hab hba)

end DraftsNamed

theorem pairwise_draftsOf (store : Store) (account : String) :
    (store.draftsOf account).Pairwise (Draft.before · ·) := by
  rw [draftsOf]
  exact List.pairwise_mergeSort Draft.before_trans Draft.before_total _

/-- Drafts are sorted into the listing from any enumeration of them. -/
theorem DraftsNamed.sort_drafts (named : DraftsNamed store) {rows : List Draft}
    (arranged : rows.Perm store.drafts.values) :
    (rows.filter (·.account = account)).mergeSort Draft.before = store.draftsOf account :=
  mergeSort_eq_of_perm ((arranged.filter _).trans (List.mergeSort_perm _ _).symm)
    Draft.before_trans Draft.before_total (store.pairwise_draftsOf account)
    named.eq_of_before

/-! ### What is shown of drafts -/

section Shown

variable (policy : Policy) (deeds : List Deed) {deed : Deed} {draft' : Draft} {id : String}

theorem draft_eq_ok_iff (named : id ≠ "") :
    (after policy deeds).draft account id = .ok draft ↔
      draft.key = ⟨account, id⟩ ∧ draft.Stands deeds := by
  rw [← getElem?_drafts_iff policy deeds, Store.draft, if_neg named]
  cases (after policy deeds).drafts[(⟨account, id⟩ : Owned)]? with
  | none => simp
  | some kept => simp

theorem draft_eq_error (named : id ≠ "") (none : ¬ HasDraft ⟨account, id⟩ deeds) :
    (after policy deeds).draft account id = .error noDraft := by
  have absent := mt (isSome_drafts_iff policy deeds ⟨account, id⟩).mp none
  rw [Option.not_isSome_iff_eq_none] at absent
  rw [Store.draft, if_neg named, absent]

theorem mem_draftsOf_iff :
    draft ∈ (after policy deeds).draftsOf account ↔
      draft.account = account ∧ draft.Stands deeds := by
  rw [(draftsNamed_after policy deeds).mem_draftsOf, getElem?_drafts_iff policy deeds,
    and_iff_right rfl]

/-- When the clock advances, drafts that come first in a listing have been saved last. -/
theorem savedBy_of_before (clock : Advancing deeds) (before : draft.before draft' = true)
    (differ : draft.key ≠ draft'.key) {i j : Nat} (saved : draft.SavedBy deeds i)
    (saved' : draft'.SavedBy deeds j) : j < i := by
  by_contra notEarlier
  obtain earlier | rfl := Nat.lt_or_eq_of_le (Nat.le_of_not_lt notEarlier)
  · obtain ⟨deed, found, saves⟩ := saved.1
    obtain ⟨deed', found', saves'⟩ := saved'.1
    rw [Draft.before_iff, saves.updatedAt, saves'.updatedAt] at before
    obtain ⟨hi, rfl⟩ := List.getElem?_eq_some_iff.mp found
    obtain ⟨hj, rfl⟩ := List.getElem?_eq_some_iff.mp found'
    have advanced := List.pairwise_iff_getElem.mp clock i j hi hj earlier
    rcases before with later | ⟨same, -⟩
    · exact Nat.lt_asymm advanced later
    · exact Nat.ne_of_gt advanced same
  · -- one deed saves one draft
    obtain ⟨deed, saves, saves'⟩ := saved.1.both saved'.1
    exact differ (Deed.Rewrites.unique (.inl ⟨draft, saves, rfl⟩) (.inl ⟨draft', saves', rfl⟩))

theorem pairwise_savedBy (clock : Advancing deeds) (account : String) :
    ((after policy deeds).draftsOf account).Pairwise fun draft draft' =>
      ∃ i j, draft.SavedBy deeds i ∧ draft'.SavedBy deeds j ∧ j < i := by
  have differ := List.pairwise_map.mp ((draftsNamed_after policy deeds).nodup_ids account)
  have ordered := (after policy deeds).pairwise_draftsOf account
  refine (differ.and ordered).imp_of_mem fun {draft draft'} hmem hmem' => ?_
  rintro ⟨differ, before⟩
  obtain ⟨i, saved⟩ := ((mem_draftsOf_iff policy deeds).mp hmem).2.1
  obtain ⟨j, saved'⟩ := ((mem_draftsOf_iff policy deeds).mp hmem').2.1
  have differ : draft.key ≠ draft'.key := fun same => differ (congrArg Owned.name same)
  exact ⟨i, j, saved, saved', savedBy_of_before deeds clock before differ saved saved'⟩

/-! ### Deeds that concern other drafts -/

theorem draft_of_untouched (untouched : ¬ deed.Rewrites ⟨account, id⟩) :
    (after policy (deeds ++ [deed])).draft account id = (after policy deeds).draft account id := by
  have redrafts := redrafts_performDeed policy (after policy deeds) deed ⟨account, id⟩
  rw [← after_snoc] at redrafts
  have same : (after policy (deeds ++ [deed])).drafts[(⟨account, id⟩ : Owned)]?
      = (after policy deeds).drafts[(⟨account, id⟩ : Owned)]? := by
    generalize (after policy (deeds ++ [deed])).drafts[(⟨account, id⟩ : Owned)]? = new at redrafts ⊢
    cases redrafts with
    | save saves own => exact absurd (.inl ⟨_, saves, own⟩) untouched
    | discard discards => exact absurd (.inr discards) untouched
    | leave => rfl
  rw [Store.draft, Store.draft, same]

/-- Of the drafts that a deed does not concern the listing stays as it was. -/
theorem filter_draftsOf_of_untouched {wanted : String → Bool}
    (untouched : ∀ id, wanted id = true → ¬ deed.Rewrites ⟨account, id⟩) :
    ((after policy (deeds ++ [deed])).draftsOf account).filter (wanted ·.id)
      = ((after policy deeds).draftsOf account).filter (wanted ·.id) := by
  have named := draftsNamed_after policy
  have nodup (deeds : List Deed) : ((after policy deeds).draftsOf account).Nodup :=
    .of_map Draft.id ((named deeds).nodup_ids account)
  have same : (((after policy (deeds ++ [deed])).draftsOf account).filter (wanted ·.id)).Perm
      (((after policy deeds).draftsOf account).filter (wanted ·.id)) := by
    refine (List.perm_ext_iff_of_nodup ((nodup _).filter _) ((nodup _).filter _)).mpr ?_
    intro draft
    rw [List.mem_filter, List.mem_filter, mem_draftsOf_iff, mem_draftsOf_iff, and_right_comm,
      and_right_comm (b := draft.Stands deeds)]
    refine and_congr_right ?_
    rintro ⟨rfl, isWanted⟩
    exact Draft.stands_snoc_of_untouched (untouched draft.id isWanted)
  refine same.eq_of_pairwise (fun a b hmem hmem' => ?_)
    ((pairwise_draftsOf _ _).filter _) ((pairwise_draftsOf _ _).filter _)
  have hmem' := same.mem_iff.mpr hmem'
  exact (named _).eq_of_before a (List.mem_filter.mp hmem).1 b (List.mem_filter.mp hmem').1

end Shown

/-! ### When saving succeeds -/

/-- The deeds that save a draft are the operations to save one that succeed. -/
theorem saves_iff_succeeded (policy : Policy) (store : Store) (deed : Deed) :
    (∃ draft, deed.Saves draft) ↔
      deed.kind = .upsertDraft ∧
        (InPlace.apply policy deed.moment deed.kind deed.op store).result = .ok () := by
  constructor
  · rintro ⟨_, saves⟩
    cases saves with
    | upsertDraft moment op said => exact ⟨rfl, result_of_does (.upsertDraft op said rfl)⟩
  · obtain ⟨moment, kind, op⟩ := deed
    rintro ⟨isUpsert, succeeded⟩
    obtain rfl : kind = .upsertDraft := isUpsert
    obtain ⟨later, does⟩ := exists_does_of_result succeeded
    cases does with
    | upsertDraft op said => exact ⟨_, .upsertDraft moment op said moment.now⟩

/--
**The drafts of an account are those that the history has left, the one saved last first.**

Whatever has been done to the blog, under an id there is what was saved last, if it has not been
removed since, and it was created when something was first saved there since the last removal;
otherwise the answer is that there is no draft.  To save means that an operation to save a draft
has succeeded, and nothing is ever kept that has neither title nor body.  The listing has each of
the drafts once, in whatever order they are enumerated before they are sorted, and when the clock
advances from deed to deed they come in the order of saving.  A deed that is not to save or to
remove a draft under the very id, and by the very account, leaves the draft as it is and in its
place among the others.
-/
theorem drafts_of_history (policy : Policy) (deeds : List Deed) (clock : Advancing deeds)
    (account : String) :
    (∀ id, id ≠ "" →
      (∀ draft, (after policy deeds).draft account id = .ok draft ↔
        draft.key = ⟨account, id⟩ ∧ draft.Stands deeds) ∧
      (HasDraft ⟨account, id⟩ deeds → ∃ draft, (after policy deeds).draft account id = .ok draft) ∧
      (¬ HasDraft ⟨account, id⟩ deeds → (after policy deeds).draft account id = .error noDraft)) ∧
    (∀ draft, draft ∈ (after policy deeds).draftsOf account ↔
      draft.account = account ∧ draft.Stands deeds) ∧
    ((after policy deeds).draftsOf account).Nodup ∧
    (((after policy deeds).draftsOf account).Pairwise fun draft draft' =>
      ∃ i j, draft.SavedBy deeds i ∧ draft'.SavedBy deeds j ∧ j < i) ∧
    (∀ rows : List Draft, rows.Perm (after policy deeds).drafts.values →
      (rows.filter (·.account = account)).mergeSort Draft.before
        = (after policy deeds).draftsOf account) ∧
    (∀ (key : Owned) (draft : Draft), (after policy deeds).drafts[key]? = some draft →
      ¬ (draft.body = "" ∧ draft.title = "")) ∧
    (∀ (store : Store) (deed : Deed), (∃ draft, deed.Saves draft) ↔
      deed.kind = .upsertDraft ∧
        (InPlace.apply policy deed.moment deed.kind deed.op store).result = .ok ()) ∧
    ∀ deed : Deed,
      (∀ key, deed.Rewrites key → Body.account deed.op = key.account ∧
        ∀ key', deed.Rewrites key' → key' = key) ∧
      (∀ id, ¬ deed.Rewrites ⟨account, id⟩ →
        (after policy (deeds ++ [deed])).draft account id
          = (after policy deeds).draft account id) ∧
      ∀ wanted : String → Bool, (∀ id, wanted id = true → ¬ deed.Rewrites ⟨account, id⟩) →
        ((after policy (deeds ++ [deed])).draftsOf account).filter (wanted ·.id)
          = ((after policy deeds).draftsOf account).filter (wanted ·.id) := by
  have named := draftsNamed_after policy deeds
  refine ⟨fun id hid => ⟨fun draft => draft_eq_ok_iff policy deeds hid, ?_,
      draft_eq_error policy deeds hid⟩,
    fun draft => mem_draftsOf_iff policy deeds, .of_map Draft.id (named.nodup_ids account),
    pairwise_savedBy policy deeds clock account, fun rows => named.sort_drafts, ?_,
    saves_iff_succeeded policy, fun deed => ⟨?_, fun id => draft_of_untouched policy deeds,
      fun wanted => filter_draftsOf_of_untouched policy deeds⟩⟩
  · intro has
    obtain ⟨draft, found⟩ := Option.isSome_iff_exists.mp
      ((isSome_drafts_iff policy deeds ⟨account, id⟩).mpr has)
    exact ⟨draft, (draft_eq_ok_iff policy deeds hid).mpr
      ((getElem?_drafts_iff policy deeds).mp found)⟩
  · intro key draft found
    obtain ⟨-, ⟨i, ⟨deed, -, saves⟩, -⟩, -⟩ := (getElem?_drafts_iff policy deeds).mp found
    exact saves.said
  · exact fun key rewrites => ⟨rewrites.account, fun key' rewrites' => rewrites'.unique rewrites⟩

/-- Alice saves two drafts, starts the first of them anew and saves the second over; bob has one
of the same id.  In the end alice tries to save nothing. -/
private def redrafted : List Deed := [
  ⟨⟨⟨1⟩, default⟩, .upsertDraft, ⟨"alice", "plan", "Plans", "", ""⟩⟩,
  ⟨⟨⟨2⟩, default⟩, .upsertDraft, ⟨"alice", "note", "Note", "", ""⟩⟩,
  ⟨⟨⟨3⟩, default⟩, .removeDraft, ⟨"alice", "plan"⟩⟩,
  ⟨⟨⟨4⟩, default⟩, .upsertDraft, ⟨"alice", "plan", "Plan", "", ""⟩⟩,
  ⟨⟨⟨5⟩, default⟩, .upsertDraft, ⟨"alice", "note", "Notes", "", ""⟩⟩,
  ⟨⟨⟨6⟩, default⟩, .upsertDraft, ⟨"bob", "note", "Mine", "", ""⟩⟩,
  ⟨⟨⟨7⟩, default⟩, .upsertDraft, ⟨"alice", "plan", "", "", ""⟩⟩]

/-- The note was begun before the plan that there is now, but it was saved later. -/
theorem note_listed_before_plan :
    Advancing redrafted ∧
    (∀ draft, draft ∈ (after .default redrafted).draftsOf "alice" ↔
      draft.account = "alice" ∧ draft.Stands redrafted) ∧
    ((after .default redrafted).draftsOf "alice").map
      (fun draft => (draft.title, draft.createdAt, draft.updatedAt))
        = [("Notes", ⟨2⟩, ⟨5⟩), ("Plan", ⟨4⟩, ⟨4⟩)] ∧
    ((after .default redrafted).draftsOf "alice").Pairwise (fun draft draft' =>
      ∃ i j, draft.SavedBy redrafted i ∧ draft'.SavedBy redrafted j ∧ j < i) ∧
    ¬ HasDraft ⟨"alice", "mine"⟩ redrafted ∧
    (after .default redrafted).draft "alice" "mine" = .error noDraft := by
  have clock : Advancing redrafted := by
    unfold Advancing
    decide
  obtain ⟨shown, listed, -, ordered, sorted, -⟩ :=
    drafts_of_history .default redrafted clock "alice"
  have none : (after .default redrafted).draft "alice" "mine" = .error noDraft := by
    decide +kernel
  refine ⟨clock, listed, ?_, ordered, fun has => ?_, none⟩
  · rw [← sorted _ (.refl _), List.mergeSort_of_pairwise] <;> decide +kernel
  · obtain ⟨draft, found⟩ := (shown "mine" (by decide)).2.1 has
    rw [none] at found
    cases found

end Store

end BlogGateway.Blog
