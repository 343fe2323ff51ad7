/-
What has been done to a blog.

Some of what a blog shows can only be told from all that has been done to it.  A history is
the list of operations that were tried, each with the moment it came at, and the blog is what
they have made of the empty store one after the other; the stores that a blog can come to are
those that some history leads to.

What is told from a history is told by its last deeds: that something has happened and
something else has not happened `Since`, and where it did so for the first time since.  Other
things are told from what has become of the blog: by which deed something has come to hold that
`HoldsSince`.  All of these are followed over a history that grows by one deed.
-/
import BlogGateway.Proofs.Blog.Reach
import Mathlib.Data.List.Induction

namespace BlogGateway.Blog

open Operation

/-- An operation that is tried, and when. -/
structure Deed where
  moment : Moment
  kind : Kind
  op : Body kind

/-- The clock has advanced from each deed to the next. -/
def Advancing (deeds : List Deed) : Prop :=
  deeds.Pairwise fun deed deed' => deed.moment.now.nanoseconds < deed'.moment.now.nanoseconds

/-! ### What has happened -/

namespace History

variable {p q : Deed → Prop} {deeds : List Deed} {deed : Deed} {i j : Nat}

/-- The deed at a place of the history is of the given kind. -/
def At (p : Deed → Prop) (deeds : List Deed) (i : Nat) : Prop :=
  ∃ deed, deeds[i]? = some deed ∧ p deed

/-- A deed of the first kind has been done, and none of the second since. -/
def Since (p q : Deed → Prop) (deeds : List Deed) : Prop :=
  ∃ i, At p deeds i ∧ ∀ j, i < j → ¬ At q deeds j

/-- The deed at the place is the first of the first kind since the last of the second. -/
structure FirstSince (p q : Deed → Prop) (deeds : List Deed) (i : Nat) : Prop where
  done : At p deeds i
  lasting : ∀ j, i < j → ¬ At q deeds j
  first : ∀ h, h < i → At p deeds h → ∃ j, h < j ∧ j < i ∧ At q deeds j

theorem At.lt_length (done : At p deeds i) : i < deeds.length := by
  obtain ⟨deed, found, -⟩ := done
  exact (List.getElem?_eq_some_iff.mp found).1

/-- There is one deed at a place. -/
theorem At.both (done : At p deeds i) (done' : At q deeds i) : ∃ deed, p deed ∧ q deed := by
  obtain ⟨deed, found, isDone⟩ := done
  obtain ⟨deed', found', isDone'⟩ := done'
  rw [found] at found'
  obtain rfl := Option.some.inj found'
  exact ⟨deed, isDone, isDone'⟩

theorem at_snoc : At p (deeds ++ [deed]) i ↔ At p deeds i ∨ i = deeds.length ∧ p deed := by
  unfold At
  rw [List.getElem?_append]
  split
  · rename_i early
    simp [Nat.ne_of_lt early]
  · rename_i late
    rw [List.getElem?_eq_none (Nat.le_of_not_lt late), List.getElem?_singleton]
    simp only [reduceCtorEq, false_and, exists_false, false_or]
    split
    · rename_i last
      simp [show i = deeds.length by omega]
    · rename_i beyond
      simp [show i ≠ deeds.length by omega]

theorem at_snoc_of_lt (early : i < deeds.length) : At p (deeds ++ [deed]) i ↔ At p deeds i := by
  rw [at_snoc, or_iff_left]
  exact fun last => Nat.ne_of_lt early last.1

theorem at_snoc_length : At p (deeds ++ [deed]) deeds.length ↔ p deed := by
  rw [at_snoc, or_iff_right fun done => Nat.lt_irrefl _ done.lt_length, and_iff_right rfl]

theorem exists_at_snoc (early : i < deeds.length) :
    (∃ j, i < j ∧ At p (deeds ++ [deed]) j) ↔ (∃ j, i < j ∧ At p deeds j) ∨ p deed := by
  constructor
  · rintro ⟨j, behind, done⟩
    obtain done | ⟨-, isDone⟩ := at_snoc.mp done
    · exact .inl ⟨j, behind, done⟩
    · exact .inr isDone
  · rintro (⟨j, behind, done⟩ | isDone)
    · exact ⟨j, behind, at_snoc.mpr (.inl done)⟩
    · exact ⟨deeds.length, early, at_snoc_length.mpr isDone⟩

theorem not_exists_at_behind : ¬ ∃ j, deeds.length < j ∧ At p (deeds ++ [deed]) j := by
  rintro ⟨j, behind, done⟩
  have := done.lt_length
  rw [List.length_append, List.length_singleton] at this
  omega

theorem at_append_of_lt (early : i < deeds.length) (more : List Deed) :
    At p (deeds ++ more) i ↔ At p deeds i := by
  rw [At, At, List.getElem?_append_left early]

theorem not_since_nil : ¬ Since p q [] := by
  rintro ⟨i, done, -⟩
  exact absurd done.lt_length (Nat.not_lt_zero i)

/-- A deed begins what lasts, or lets it last. -/
theorem since_snoc : Since p q (deeds ++ [deed]) ↔ p deed ∨ Since p q deeds ∧ ¬ q deed := by
  constructor
  · rintro ⟨i, done, lasting⟩
    obtain done | ⟨rfl, isDone⟩ := at_snoc.mp done
    · refine .inr ⟨⟨i, done, fun j later undone => ?_⟩, fun undone => ?_⟩
      · exact lasting j later (at_snoc.mpr (.inl undone))
      · exact lasting _ done.lt_length (at_snoc_length.mpr undone)
    · exact .inl isDone
  · rintro (isDone | ⟨⟨i, done, lasting⟩, notUndone⟩)
    · exact ⟨deeds.length, at_snoc_length.mpr isDone, fun j later undone =>
        not_exists_at_behind ⟨j, later, undone⟩⟩
    · refine ⟨i, at_snoc.mpr (.inl done), fun j later undone => ?_⟩
      obtain undone | ⟨-, isUndone⟩ := at_snoc.mp undone
      · exact lasting j later undone
      · exact notUndone isUndone

/-- Where it has begun is told by what has been done until then: it lasts from there, or it is
begun by the last deed. -/
theorem firstSince_snoc : FirstSince p q (deeds ++ [deed]) i ↔
    FirstSince p q deeds i ∧ ¬ q deed ∨ i = deeds.length ∧ p deed ∧ ¬ Since p q deeds := by
  constructor
  · rintro ⟨done, lasting, first⟩
    obtain early | rfl | late := Nat.lt_trichotomy i deeds.length
    · refine .inl ⟨⟨(at_snoc_of_lt early).mp done, fun j later undone => ?_,
        fun h before doneBefore => ?_⟩, fun undone => ?_⟩
      · exact lasting j later (at_snoc.mpr (.inl undone))
      · obtain ⟨j, after, until', undone⟩ := first h before (at_snoc.mpr (.inl doneBefore))
        exact ⟨j, after, until', (at_snoc_of_lt (Nat.lt_trans until' early)).mp undone⟩
      · exact lasting _ early (at_snoc_length.mpr undone)
    · refine .inr ⟨rfl, at_snoc_length.mp done, ?_⟩
      rintro ⟨h, doneBefore, lastingBefore⟩
      obtain ⟨j, after, until', undone⟩ :=
        first h doneBefore.lt_length (at_snoc.mpr (.inl doneBefore))
      exact lastingBefore j after ((at_snoc_of_lt until').mp undone)
    · have := done.lt_length
      rw [List.length_append, List.length_singleton] at this
      omega
  · rintro (⟨⟨done, lasting, first⟩, notUndone⟩ | ⟨rfl, isDone, new⟩)
    · have early := done.lt_length
      refine ⟨at_snoc.mpr (.inl done), fun j later undone => ?_, fun h before doneBefore => ?_⟩
      · obtain undone | ⟨-, isUndone⟩ := at_snoc.mp undone
        · exact lasting j later undone
        · exact notUndone isUndone
      · obtain ⟨j, after, until', undone⟩ :=
          first h before ((at_snoc_of_lt (Nat.lt_trans before early)).mp doneBefore)
        exact ⟨j, after, until', at_snoc.mpr (.inl undone)⟩
    · refine ⟨at_snoc_length.mpr isDone, fun j later undone => ?_, fun h before doneBefore => ?_⟩
      · exact not_exists_at_behind ⟨j, later, undone⟩
      · -- if nothing undid it then it would have lasted until now
        by_contra unbroken
        push Not at unbroken
        refine new ⟨h, (at_snoc_of_lt before).mp doneBefore, fun j later undone => ?_⟩
        exact unbroken j later undone.lt_length (at_snoc.mpr (.inl undone))

/-- There is one place at most where it has begun. -/
theorem FirstSince.unique (begun : FirstSince p q deeds i) (begun' : FirstSince p q deeds j) :
    i = j := by
  by_contra differ
  obtain less | more := Nat.lt_or_gt_of_ne differ
  · obtain ⟨k, after, -, undone⟩ := begun'.first i less begun.done
    exact begun.lasting k after undone
  · obtain ⟨k, after, -, undone⟩ := begun.first j more begun'.done
    exact begun'.lasting k after undone

/-- What lasts has begun somewhere. -/
theorem exists_firstSince_iff (exclusive : ∀ deed, p deed → ¬ q deed) :
    (∃ i, FirstSince p q deeds i) ↔ Since p q deeds := by
  constructor
  · rintro ⟨i, done, lasting, -⟩
    exact ⟨i, done, lasting⟩
  · induction deeds using List.reverseRecOn with
    | nil => exact fun lasts => absurd lasts not_since_nil
    | append_singleton deeds deed ih =>
        intro lasts
        by_cases lasted : Since p q deeds
        · have notUndone : ¬ q deed := by
            obtain isDone | ⟨-, notUndone⟩ := since_snoc.mp lasts
            · exact exclusive deed isDone
            · exact notUndone
          obtain ⟨i, begun⟩ := ih lasted
          exact ⟨i, firstSince_snoc.mpr (.inl ⟨begun, notUndone⟩)⟩
        · obtain isDone | ⟨lasted', -⟩ := since_snoc.mp lasts
          · exact ⟨deeds.length, firstSince_snoc.mpr (.inr ⟨rfl, isDone, lasted⟩)⟩
          · exact absurd lasted' lasted

/-! ### What has held since -/

section Holding

variable {holds : List Deed → Prop}

/-- What may hold of a history has come to hold by the deed at the place, and has held ever
since. -/
structure HoldsSince (holds : List Deed → Prop) (deeds : List Deed) (i : Nat) : Prop where
  done : i < deeds.length
  new : ¬ holds (deeds.take i)
  lasting : ∀ j, i < j → j ≤ deeds.length → holds (deeds.take j)

theorem HoldsSince.now (since : HoldsSince holds deeds i) : holds deeds := by
  have last := since.lasting deeds.length since.done (Nat.le_refl _)
  rwa [List.take_length] at last

/-- There is one deed at most by which it has come to hold for good. -/
theorem HoldsSince.unique (since : HoldsSince holds deeds i) (since' : HoldsSince holds deeds j) :
    i = j := by
  by_contra differ
  obtain less | more := Nat.lt_or_gt_of_ne differ
  · exact since'.new (since.lasting j less (Nat.le_of_lt since'.done))
  · exact since.new (since'.lasting i more (Nat.le_of_lt since.done))

/-- What holds has held, or has come to hold by the last deed. -/
theorem holdsSince_snoc : HoldsSince holds (deeds ++ [deed]) i ↔
    holds (deeds ++ [deed]) ∧ (HoldsSince holds deeds i ∨ i = deeds.length ∧ ¬ holds deeds) := by
  have early {j : Nat} (within : j ≤ deeds.length) : (deeds ++ [deed]).take j = deeds.take j :=
    List.take_append_of_le_length within
  constructor
  · intro since
    refine ⟨since.now, ?_⟩
    obtain ⟨done, new, lasting⟩ := since
    rw [List.length_append, List.length_singleton] at done lasting
    obtain before | rfl := Nat.lt_or_eq_of_le (Nat.le_of_lt_succ done)
    · refine .inl ⟨before, ?_, fun j later within => ?_⟩
      · rwa [early (Nat.le_of_lt before)] at new
      · have held := lasting j later (Nat.le_succ_of_le within)
        rwa [early within] at held
    · rw [early (Nat.le_refl _), List.take_length] at new
      exact .inr ⟨rfl, new⟩
  · have whole : (deeds ++ [deed]).take (deeds.length + 1) = deeds ++ [deed] :=
      List.take_of_length_le (by simp)
    rintro ⟨now, ⟨done, new, lasting⟩ | ⟨rfl, new⟩⟩
    · refine ⟨?_, ?_, fun j later within => ?_⟩
      · rw [List.length_append, List.length_singleton]
        exact Nat.lt_succ_of_lt done
      · rwa [early (Nat.le_of_lt done)]
      · rw [List.length_append, List.length_singleton] at within
        obtain within | rfl := Nat.le_or_eq_of_le_succ within
        · rw [early within]
          exact lasting j later within
        · rwa [whole]
    · refine ⟨?_, ?_, fun j later within => ?_⟩
      · rw [List.length_append, List.length_singleton]
        exact Nat.lt_succ_self _
      · rwa [early (Nat.le_refl _), List.take_length]
      · rw [List.length_append, List.length_singleton] at within
        obtain rfl : j = deeds.length + 1 := by omega
        rwa [whole]

/-- What did not hold at first, and holds now, has come to hold by some deed. -/
theorem exists_holdsSince_iff (first : ¬ holds []) :
    (∃ i, HoldsSince holds deeds i) ↔ holds deeds := by
  constructor
  · rintro ⟨i, since⟩
    exact since.now
  · induction deeds using List.reverseRecOn with
    | nil => exact fun now => absurd now first
    | append_singleton deeds deed ih =>
        intro now
        by_cases before : holds deeds
        · obtain ⟨i, since⟩ := ih before
          exact ⟨i, holdsSince_snoc.mpr ⟨now, .inl since⟩⟩
        · exact ⟨deeds.length, holdsSince_snoc.mpr ⟨now, .inr ⟨rfl, before⟩⟩⟩

/-- A list that new items are only ever put at the end of has them in the order in which they
have come to be there. -/
theorem pairwise_holdsSince {α : Type} (items : List Deed → List α) (first : items [] = [])
    (grows : ∀ deeds deed, (items (deeds ++ [deed])).Sublist (items deeds) ∨
      ∃ item, item ∉ items deeds ∧ items (deeds ++ [deed]) = items deeds ++ [item])
    (deeds : List Deed) :
    (items deeds).Pairwise fun item item' =>
      ∃ i j, HoldsSince (item ∈ items ·) deeds i ∧ HoldsSince (item' ∈ items ·) deeds j ∧
        i < j := by
  induction deeds using List.reverseRecOn with
  | nil =>
      rw [first]
      exact .nil
  | append_singleton deeds deed ih =>
      have kept {item : α} {i : Nat} (stays : item ∈ items (deeds ++ [deed]))
          (since : HoldsSince (item ∈ items ·) deeds i) :
          HoldsSince (item ∈ items ·) (deeds ++ [deed]) i :=
        holdsSince_snoc.mpr ⟨stays, .inl since⟩
      obtain sublist | ⟨new, notThere, snoc⟩ := grows deeds deed
      · refine (ih.sublist sublist).imp_of_mem fun stays stays' => ?_
        rintro ⟨i, j, since, since', earlier⟩
        exact ⟨i, j, kept stays since, kept stays' since', earlier⟩
      · rw [snoc]
        refine List.pairwise_append.mpr ⟨?_, List.pairwise_singleton .., ?_⟩
        · refine ih.imp_of_mem fun stays stays' => ?_
          rintro ⟨i, j, since, since', earlier⟩
          have stays := snoc ▸ List.mem_append_left [new] stays
          have stays' := snoc ▸ List.mem_append_left [new] stays'
          exact ⟨i, j, kept stays since, kept stays' since', earlier⟩
        · intro item hmem item' isNew
          obtain rfl := List.mem_singleton.mp isNew
          have absent : item ∉ items [] := by
            rw [first]
            exact List.not_mem_nil
          obtain ⟨i, since⟩ : ∃ i, HoldsSince (item ∈ items ·) deeds i :=
            (exists_holdsSince_iff absent).mpr hmem
          have stays := snoc ▸ List.mem_append_left [item'] hmem
          have now := snoc ▸ List.mem_append_right (items deeds) isNew
          exact ⟨i, deeds.length, kept stays since,
            holdsSince_snoc.mpr ⟨now, .inr ⟨rfl, notThere⟩⟩, since.done⟩

end Holding

end History

/-! ### What the deeds have made -/

namespace Store

/-- The store after a deed, whether it has succeeded or failed. -/
def performDeed (policy : Policy) (store : Store) (deed : Deed) : Store :=
  store.perform policy deed.moment deed.kind deed.op

/-- What the deeds have made of the empty store. -/
def after (policy : Policy) (deeds : List Deed) : Store := deeds.foldl (performDeed policy) .empty

theorem after_snoc (policy : Policy) (deeds : List Deed) (deed : Deed) :
    after policy (deeds ++ [deed]) = performDeed policy (after policy deeds) deed := by
  simp [after]

theorem reachable_iff {policy : Policy} {store : Store} :
    Reachable policy store ↔ ∃ deeds, after policy deeds = store := by
  constructor
  · intro reached
    induction reached with
    | empty => exact ⟨[], rfl⟩
    | perform reached moment kind op ih =>
        obtain ⟨deeds, rfl⟩ := ih
        exact ⟨deeds ++ [⟨moment, kind, op⟩], after_snoc policy deeds _⟩
  · rintro ⟨deeds, rfl⟩
    induction deeds using List.reverseRecOn with
    | nil => exact .empty
    | append_singleton deeds deed ih =>
        rw [after_snoc]
        exact ih.perform deed.moment deed.kind deed.op

theorem reachable_after (policy : Policy) (deeds : List Deed) :
    Reachable policy (after policy deeds) :=
  reachable_iff.mpr ⟨deeds, rfl⟩

end Store

end BlogGateway.Blog
