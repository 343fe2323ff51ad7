/-
Which follows are new.

The list of follows is only ever added to at its end, and what is taken out of it leaves the
others where they are.  So it is ordered by when its follows have begun, and that is told here
without the list: a follow has begun by the deed before which it was not there and since which it
always was.  Listings go through the list backwards, and what they show comes newest first.
-/
import BlogGateway.Proofs.Blog.Filters
import BlogGateway.Proofs.Blog.History

namespace BlogGateway.Blog

open Operation History

/-- The follow has begun by the deed at the place and has lasted since. -/
def FollowsSince (policy : Policy) (deeds : List Deed) (following : Following) (i : Nat) : Prop :=
  HoldsSince (fun deeds => following ∈ (Store.after policy deeds).follows) deeds i

/-- Of two follows that both last, the first is the one that has begun later. -/
def Newer (policy : Policy) (deeds : List Deed) (following following' : Following) : Prop :=
  ∃ i j, FollowsSince policy deeds following i ∧ FollowsSince policy deeds following' j ∧ j < i

theorem Newer.irrefl {policy : Policy} {deeds : List Deed} {following : Following}
    (newer : Newer policy deeds following following) : False := by
  obtain ⟨i, j, since, since', later⟩ := newer
  exact absurd (since.unique since') (Nat.ne_of_gt later)

namespace Store

variable (policy : Policy) (deeds : List Deed)

/-- A deed adds at most one follow, at the end, and leaves the others in their order. -/
theorem follows_sublist_or_snoc (store : Store) (deed : Deed) :
    (store.performDeed policy deed).follows.Sublist store.follows ∨
      ∃ following, following ∉ store.follows ∧
        (store.performDeed policy deed).follows = store.follows ++ [following] := by
  obtain ⟨moment, kind, op⟩ := deed
  have added : ∀ {after : Store}, Does policy moment store kind op after →
      after.follows.Sublist store.follows ∨
        ∃ following, following ∉ store.follows ∧ after.follows = store.follows ++ [following] := by
    intro after does
    cases does with
    | follow op room new known => exact .inr ⟨_, by simpa [isFollowing] using new, rfl⟩
    | unfollow op => exact .inl List.filter_sublist
    | _ => exact .inl (List.Sublist.refl _)
  refine perform_invariant ?_ added
  exact .inl (List.Sublist.refl _)

/-- Follows are kept in the order in which they have begun. -/
theorem pairwise_follows :
    (after policy deeds).follows.Pairwise fun following following' =>
      Newer policy deeds following' following := by
  have begun := pairwise_holdsSince (fun deeds => (after policy deeds).follows) rfl
    (fun deeds deed => by
      rw [after_snoc]
      exact follows_sublist_or_snoc policy (after policy deeds) deed) deeds
  refine begun.imp ?_
  rintro following following' ⟨i, j, since, since', earlier⟩
  exact ⟨j, i, since', since, earlier⟩

/-- A listing of follows has the newest first; `follow` makes a follow of its near and its far
end. -/
theorem pairwise_ends {near far : Following → String} (follow : String → String → Following)
    (made : ∀ following, follow (near following) (far following) = following)
    (account : String) :
    ((after policy deeds).ends near far account).Pairwise fun profile profile' =>
      Newer policy deeds (follow account profile.account) (follow account profile'.account) := by
  have named := (reachable_after policy deeds).named
  rw [ends, List.pairwise_filterMap, List.pairwise_filter, List.pairwise_reverse]
  refine (pairwise_follows policy deeds).imp ?_
  intro following following' newer isNear' isNear profile' found' profile found
  rw [decide_eq_true_iff] at isNear isNear'
  rwa [named _ profile' found', named _ profile found, ← isNear, made, isNear, ← isNear', made]

end Store

end BlogGateway.Blog
