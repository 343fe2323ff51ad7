/-
The numbers of follows and the listings of them.

A profile comes with two numbers, which count the follows that an account is an end of.  The
listings go through the same follows, but give the profiles at their other ends and pass over
those who have none.  Nobody can be followed without a profile, so of those whom an account
follows as many are listed as are counted.  But nobody needs a profile to follow: the number of
followers also counts those who have none, and is by so many greater than the listing is long.
-/
import BlogGateway.Proofs.Blog.Follows
import BlogGateway.Proofs.Blog.Paging

namespace BlogGateway.Blog

open Operation Std

namespace Store

variable {policy : Policy} {store : Store} {account : String}

theorem toNat_count {n : Nat} (few : n < UInt32.size) : (count n).toNat = n := by
  have most : min n 0xFFFFFFFF = n := Nat.min_eq_left (Nat.le_of_lt_succ few)
  rw [count, most, UInt32.toNat_ofNat_of_lt' few]

/-- All whom an account follows are listed. -/
theorem InStep.length_allFollowing (inStep : InStep policy store) (account : String) :
    (store.allFollowing account).length = store.follows.countP (·.follower = account) := by
  have known : ∀ following ∈ store.follows.filter (·.follower = account),
      decide (following.followed ∈ store.profiles) = true := fun following hmem =>
    decide_eq_true (inStep.known following (List.mem_filter.mp hmem).1)
  rw [allFollowing_eq_ends, length_ends, List.countP_eq_length.mpr known,
    List.countP_eq_length_filter]

/-- How many accounts without a profile follow an account. -/
def strangersCount (store : Store) (account : String) : Nat :=
  (store.follows.filter (·.followed = account)).countP (·.follower ∉ store.profiles)

/-- Those who follow an account are listed or are strangers. -/
theorem countP_followed (store : Store) (account : String) :
    store.follows.countP (·.followed = account)
      = (store.allFollowers account).length + store.strangersCount account := by
  rw [allFollowers_eq_ends, length_ends, strangersCount, List.countP_eq_length_filter,
    List.length_eq_countP_add_countP (·.follower ∈ store.profiles)]
  refine congrArg (_ + ·) (List.countP_congr fun following _ => ?_)
  simp

theorem strangersCount_eq_zero_iff :
    store.strangersCount account = 0 ↔
      ∀ following ∈ store.follows, following.followed = account →
        following.follower ∈ store.profiles := by
  simp only [strangersCount, List.countP_eq_zero, List.mem_filter, decide_eq_true_iff,
    Decidable.not_not, and_imp]

/-- Whoever has a profile is given it with both numbers. -/
theorem profile_of_mem (known : account ∈ store.profiles)
    (few : store.follows.length < UInt32.size) :
    ∃ extended, store.profile account = .ok extended ∧
      extended.followersCount.toNat = store.follows.countP (·.followed = account) ∧
      extended.followingCount.toNat = store.follows.countP (·.follower = account) := by
  rw [ExtTreeMap.mem_iff_isSome_getElem?, Option.isSome_iff_exists] at known
  obtain ⟨profile, found⟩ := known
  unfold Store.profile
  rw [found]
  exact ⟨_, rfl, toNat_count (Nat.lt_of_le_of_lt List.countP_le_length few),
    toNat_count (Nat.lt_of_le_of_lt List.countP_le_length few)⟩

/--
**Follows are counted as they are listed, but for followers without a profile.**

Blogs that start out empty and take operations that keep the field rules, as long as there are
few enough follows to be counted, give for every account with a profile as many as it follows as
can be gathered page by page.  The number of its followers is by so many greater than what can
be gathered as there are followers without a profile, who are counted and not listed; it is the
same exactly when there are none.
-/
theorem Leads.follows_counted (leads : Leads policy .empty store)
    (few : store.follows.length < UInt32.size) (registered : account ∈ store.profiles) :
    ∃ extended followers following,
      store.profile account = .ok extended ∧
      (∀ limit, 0 < limit → limit ≤ pageLimit → ∀ gathered,
        (Gathers (store.followers account) limit 0 gathered ↔ gathered = followers) ∧
        (Gathers (store.following account) limit 0 gathered ↔ gathered = following)) ∧
      extended.followingCount.toNat = following.length ∧
      extended.followersCount.toNat = followers.length + store.strangersCount account ∧
      (extended.followersCount.toNat = followers.length ↔
        ∀ following ∈ store.follows, following.followed = account →
          following.follower ∈ store.profiles) := by
  have inStep := (leads.reachable .empty).inStep
  obtain ⟨extended, hprofile, hfollowers, hfollowing⟩ := profile_of_mem registered few
  rw [countP_followed] at hfollowers
  rw [← inStep.length_allFollowing] at hfollowing
  refine ⟨extended, store.allFollowers account, store.allFollowing account, hprofile,
    fun limit positive allowed gathered => ⟨?_, ?_⟩, hfollowing, hfollowers, ?_⟩
  · exact gathers_page_iff positive allowed
      (Nat.le_trans (length_ends_le store _ _ account) (Nat.le_of_lt few))
  · exact gathers_page_iff positive allowed
      (Nat.le_trans (length_ends_le store _ _ account) (Nat.le_of_lt few))
  · rw [hfollowers, Nat.add_eq_left, strangersCount_eq_zero_iff]

/-- Alice, who has a profile, follows bob, and so does one who has none. -/
private def strangerFollowsBob : Store :=
  Store.empty
    |>.perform .default default .register (⟨"bob"⟩ : Register)
    |>.perform .default default .follow (⟨"stranger", "bob"⟩ : Follow)
    |>.perform .default default .register (⟨"alice"⟩ : Register)
    |>.perform .default default .follow (⟨"alice", "bob"⟩ : Follow)

private theorem leads_strangerFollowsBob : Leads .default .empty strangerFollowsBob :=
  (((Leads.refl.perform _ _ _ rfl).perform _ _ _ rfl).perform _ _ _ rfl).perform _ _ _ rfl

/-- Of the two who are counted as bob's followers, alice alone is listed. -/
theorem stranger_is_no_listed_follower :
    Leads .default .empty strangerFollowsBob ∧
    strangerFollowsBob.follows.length < UInt32.size ∧ "bob" ∈ strangerFollowsBob.profiles ∧
    strangerFollowsBob.strangersCount "bob" = 1 ∧
    ∃ extended followers, strangerFollowsBob.profile "bob" = .ok extended ∧
      Gathers (strangerFollowsBob.followers "bob") 1 0 followers ∧
      extended.followersCount.toNat = followers.length + 1 := by
  have few : strangerFollowsBob.follows.length < UInt32.size := by decide +kernel
  have known : "bob" ∈ strangerFollowsBob.profiles := by decide +kernel
  have one : strangerFollowsBob.strangersCount "bob" = 1 := by decide +kernel
  obtain ⟨extended, followers, following, hprofile, pages, -, counted, -⟩ :=
    Leads.follows_counted leads_strangerFollowsBob few known
  rw [one] at counted
  exact ⟨leads_strangerFollowsBob, few, known, one, extended, followers, hprofile,
    (pages 1 (by decide) (by decide) followers).1.mpr rfl, counted⟩

/-- As soon as a stranger follows bob, the number of his followers is not that of the listing. -/
theorem not_followers_counted_as_listed :
    ¬ ∀ (store : Store) (account : String), Leads .default .empty store →
      store.follows.length < UInt32.size → ∀ extended followers,
        store.profile account = .ok extended →
        Gathers (store.followers account) 1000 0 followers →
        extended.followersCount.toNat = followers.length := by
  intro agree
  have leads : Leads .default .empty
      ((Store.empty.perform .default default .register (⟨"bob"⟩ : Register)).perform
        .default default .follow (⟨"stranger", "bob"⟩ : Follow)) :=
    (Leads.refl.perform _ _ _ rfl).perform _ _ _ rfl
  have counted := agree _ "bob" leads (by decide +kernel) _ [] rfl (.ended (by decide) rfl)
  exact absurd counted (by decide +kernel)

end Store

end BlogGateway.Blog
