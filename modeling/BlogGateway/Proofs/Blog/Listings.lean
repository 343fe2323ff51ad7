/-
What is listed, and in which order.

Four listings are given in pages: those who follow an account and those whom it follows, the
accounts that the administrator vouches for, and the hidden posts.  Each has what belongs to it
and nothing twice, in an order that is told without the way it is kept: follows by when they have
begun, profiles by the names of their accounts, posts by author and name.  A reader who asks for
page after page has the whole listing in the end.

Profiles are kept in a map.  In whatever order its rows are gone through, to pick those that are
vouched for and to sort them by name gives the listing, because no two of them have one name.
-/
import BlogGateway.Proofs.Blog.Newest
import BlogGateway.Proofs.Blog.Paging

namespace BlogGateway.Blog

open Operation Std

/-- The listing has what belongs to it, each once and in an order. -/
structure Lists {α : Type} (belongs : α → Prop) (before : α → α → Prop) (listing : List α) :
    Prop where
  mem_iff : ∀ item, item ∈ listing ↔ belongs item
  once : listing.Nodup
  ordered : listing.Pairwise before

/-- An order in which nothing comes before itself lists nothing twice. -/
theorem Lists.of_irrefl {α : Type} {belongs : α → Prop} {before : α → α → Prop}
    {listing : List α} (mem_iff : ∀ item, item ∈ listing ↔ belongs item)
    (ordered : listing.Pairwise before) (irrefl : ∀ item, ¬ before item item) :
    Lists belongs before listing where
  mem_iff := mem_iff
  once := by
    refine ordered.imp ?_
    rintro item _ comes rfl
    exact irrefl item comes
  ordered := ordered

/-- Names within accounts go by account and then by name. -/
theorem Owned.compare_eq_lt_iff {owned owned' : Owned} : compare owned owned' = .lt ↔
    owned.account < owned'.account ∨
      owned.account = owned'.account ∧ owned.name < owned'.name := by
  show (compareLex (compareOn Owned.account) (compareOn Owned.name)) owned owned' = .lt ↔ _
  rw [compareLex, Ordering.then_eq_lt, compareOn, compareOn, Std.compare_eq_iff_eq]
  exact or_congr compareOfLessAndEq_eq_lt (and_congr_right fun _ => compareOfLessAndEq_eq_lt)

namespace Store

variable {store : Store}

/-! ### Follows -/

theorem lists_allFollowers (policy : Policy) (deeds : List Deed) (account : String) :
    Lists (fun profile => (after policy deeds).profiles[profile.account]? = some profile ∧
        (after policy deeds).isFollowing profile.account account = true)
      (fun profile profile' =>
        Newer policy deeds ⟨profile.account, account⟩ ⟨profile'.account, account⟩)
      ((after policy deeds).allFollowers account) := by
  have named := (reachable_after policy deeds).named
  refine .of_irrefl (fun _ => named.mem_allFollowers) ?_ fun _ => Newer.irrefl
  exact pairwise_ends policy deeds (fun account other => ⟨other, account⟩) (fun _ => rfl) account

theorem lists_allFollowing (policy : Policy) (deeds : List Deed) (account : String) :
    Lists (fun profile => (after policy deeds).profiles[profile.account]? = some profile ∧
        (after policy deeds).isFollowing account profile.account = true)
      (fun profile profile' =>
        Newer policy deeds ⟨account, profile.account⟩ ⟨account, profile'.account⟩)
      ((after policy deeds).allFollowing account) := by
  have named := (reachable_after policy deeds).named
  refine .of_irrefl (fun _ => named.mem_allFollowing) ?_ fun _ => Newer.irrefl
  exact pairwise_ends policy deeds Following.mk (fun _ => rfl) account

/-! ### Accounts that are vouched for -/

theorem Named.pairwise_values (named : Named store) :
    store.profiles.values.Pairwise fun profile profile' => profile.account < profile'.account := by
  refine Blog.pairwise_values fun name name' profile profile' found found' less => ?_
  rw [named name profile found, named name' profile' found']
  exact compareOfLessAndEq_eq_lt.mp less

theorem Named.lists_allTrusted (named : Named store) :
    Lists (fun profile => store.profiles[profile.account]? = some profile ∧
        profile.isTrusted = true)
      (fun profile profile' => profile.account < profile'.account) store.allTrusted := by
  refine .of_irrefl (fun profile => ?_) (named.pairwise_values.filter _)
    fun profile => String.lt_irrefl profile.account
  rw [allTrusted, List.mem_filter, named.mem_values]

/-- Profiles are sorted into the listing from any enumeration of them. -/
theorem Named.sort_trusted (named : Named store) {rows : List Profile}
    (arranged : rows.Perm store.profiles.values) :
    (rows.filter Profile.isTrusted).mergeSort (fun profile profile' =>
      profile.account ≤ profile'.account) = store.allTrusted := by
  have lists := named.lists_allTrusted
  refine mergeSort_eq_of_perm (arranged.filter _) ?_ ?_ ?_ ?_
  · simp only [decide_eq_true_iff]
    exact fun _ _ _ => String.le_trans
  · simp only [Bool.or_eq_true, decide_eq_true_iff]
    exact fun _ _ => String.le_total ..
  · simp only [decide_eq_true_iff]
    refine lists.ordered.imp fun {profile profile'} less => ?_
    exact (String.le_total ..).resolve_right (String.not_le.mpr less)
  · intro profile hmem profile' hmem' le le'
    rw [decide_eq_true_iff] at le le'
    have found := ((lists.mem_iff profile).mp hmem).1
    have found' := ((lists.mem_iff profile').mp hmem').1
    rw [String.le_antisymm le le', found'] at found
    exact (Option.some.inj found).symm

/-! ### Hidden posts -/

theorem lists_allBlacklisted (store : Store) :
    Lists (fun post => store.isBlacklisted post.account post.name = true)
      (fun post post' => post.account < post'.account ∨
        post.account = post'.account ∧ post.name < post'.name) store.allBlacklisted := by
  refine .of_irrefl (fun post => ?_) ?_ ?_
  · rw [allBlacklisted, isBlacklisted, ExtTreeSet.mem_toList, ExtTreeSet.contains_iff_mem]
  · exact (ExtTreeMap.ordered_keys (t := store.blacklist.inner)).imp Owned.compare_eq_lt_iff.mp
  · rintro post (less | ⟨-, less⟩)
    · exact String.lt_irrefl _ less
    · exact String.lt_irrefl _ less

/--
**Paging through a listing loses nothing and repeats nothing.**

Whatever has been done to the blog, whoever asks for page after page, of any size from one to a
thousand, comes to an empty page and has the whole listing then, as long as there are not too
many entries to be asked for; a page of more than a thousand is refused.  Followers are the
profiles of those who follow the account and the newest follow comes first, and so it is with
those whom it follows.  The accounts that the administrator vouches for go by name, however their
profiles are enumerated before they are sorted, and hidden posts by author and name.
-/
theorem listings_paged (policy : Policy) (deeds : List Deed) (account : String) :
    (∃ followers, Paged ((after policy deeds).followers account) followers ∧
      Lists (fun profile => (after policy deeds).profiles[profile.account]? = some profile ∧
          (after policy deeds).isFollowing profile.account account = true)
        (fun profile profile' =>
          Newer policy deeds ⟨profile.account, account⟩ ⟨profile'.account, account⟩) followers) ∧
    (∃ following, Paged ((after policy deeds).following account) following ∧
      Lists (fun profile => (after policy deeds).profiles[profile.account]? = some profile ∧
          (after policy deeds).isFollowing account profile.account = true)
        (fun profile profile' =>
          Newer policy deeds ⟨account, profile.account⟩ ⟨account, profile'.account⟩) following) ∧
    (∃ trusted, Paged (after policy deeds).trusted trusted ∧
      Lists (fun profile => (after policy deeds).profiles[profile.account]? = some profile ∧
          profile.isTrusted = true)
        (fun profile profile' => profile.account < profile'.account) trusted ∧
      ∀ rows : List Profile, rows.Perm (after policy deeds).profiles.values →
        (rows.filter Profile.isTrusted).mergeSort (fun profile profile' =>
          profile.account ≤ profile'.account) = trusted) ∧
    ∃ blacklisted, Paged (after policy deeds).blacklisted blacklisted ∧
      Lists (fun post => (after policy deeds).isBlacklisted post.account post.name = true)
        (fun post post' => post.account < post'.account ∨
          post.account = post'.account ∧ post.name < post'.name) blacklisted := by
  have named := (reachable_after policy deeds).named
  exact ⟨⟨_, paged_page _, lists_allFollowers policy deeds account⟩,
    ⟨_, paged_page _, lists_allFollowing policy deeds account⟩,
    ⟨_, paged_page _, named.lists_allTrusted, fun rows => named.sort_trusted⟩,
    ⟨_, paged_page _, lists_allBlacklisted _⟩⟩

end Store

end BlogGateway.Blog
