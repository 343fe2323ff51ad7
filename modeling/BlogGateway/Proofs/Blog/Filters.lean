/-
Profiles that are picked by name.

Whoever asks for the profiles of some accounts may name an account twice, and may name accounts
that nobody knows.  Each name counts where it stands first, which is found out with the names
that have been seen; of these the ones with a profile are answered, or the ones that also follow
an account or are followed by it.

The listing of followers goes another way: it reads the follows backwards and looks up who is at
their other end.  Both ways come to the same accounts, because a profile is kept under the name
of its account, so that an account that is picked has just the profile that is listed.
-/
import Mathlib.Data.List.Nodup
import BlogGateway.Proofs.Blog.Follows

namespace BlogGateway.Blog

open Operation Std

/-! ### Names that stand first -/

section Unique

variable {seen : ExtTreeSet String} {account : String} {accounts : List String}

theorem uniqueBehind_of_mem (known : account ∈ seen) :
    uniqueBehind seen (account :: accounts) = uniqueBehind seen accounts := by
  rw [uniqueBehind, if_pos known]

theorem uniqueBehind_of_notMem (new : account ∉ seen) :
    uniqueBehind seen (account :: accounts)
      = account :: uniqueBehind (seen.insert account) accounts := by
  rw [uniqueBehind, if_neg new]

/-- To have seen one more name is to leave that name out. -/
theorem filter_notMem_insert (seen : ExtTreeSet String) (account : String)
    (accounts : List String) :
    accounts.filter (· ∉ seen.insert account)
      = (accounts.filter (· ∉ seen)).filter fun other => !other == account := by
  rw [List.filter_filter]
  refine List.filter_congr fun other _ => ?_
  rw [Bool.eq_iff_iff, decide_eq_true_iff, Bool.and_eq_true, decide_eq_true_iff,
    ExtTreeSet.mem_insert, Std.compare_eq_iff_eq, not_or, Bool.not_eq_true', beq_eq_false_iff_ne,
    ne_comm]

/-- Behind names that have been seen, the others are left where they stand first. -/
theorem uniqueBehind_eq_eraseDups (seen : ExtTreeSet String) (accounts : List String) :
    uniqueBehind seen accounts = (accounts.filter (· ∉ seen)).eraseDups := by
  induction accounts generalizing seen with
  | nil => rfl
  | cons account rest ih =>
      by_cases known : account ∈ seen
      · rw [uniqueBehind_of_mem known, List.filter_cons_of_neg (by simpa using known), ih]
      · -- The name that is seen now is the one that `eraseDups` takes out of the rest.
        rw [uniqueBehind_of_notMem known, List.filter_cons_of_pos (by simpa using known),
          List.eraseDups_cons, ih, filter_notMem_insert]

theorem unique_eq_eraseDups (accounts : List String) : unique accounts = accounts.eraseDups := by
  rw [unique, uniqueBehind_eq_eraseDups, List.filter_eq_self.mpr (by simp)]

theorem mem_unique : account ∈ unique accounts ↔ account ∈ accounts := by
  rw [unique_eq_eraseDups, List.mem_eraseDups]

theorem nodup_uniqueBehind (seen : ExtTreeSet String) (accounts : List String) :
    (uniqueBehind seen accounts).Nodup := by
  induction accounts generalizing seen with
  | nil => exact List.nodup_nil
  | cons account rest ih =>
      by_cases known : account ∈ seen
      · rw [uniqueBehind_of_mem known]
        exact ih seen
      · rw [uniqueBehind_of_notMem known, List.nodup_cons]
        refine ⟨fun again => ?_, ih _⟩
        rw [uniqueBehind_eq_eraseDups, List.mem_eraseDups, List.mem_filter] at again
        simp at again

end Unique

/-! ### Names and profiles -/

/-- What is found in a listing when some of its accounts are asked for: each that is listed
once, in the order in which they were asked for. -/
structure Picks (listing : List Profile) (candidates : List String) (found : List Profile) :
    Prop where
  names : found.map Profile.account
    = candidates.eraseDups.filter (· ∈ listing.map Profile.account)
  listed : ∀ profile ∈ found, profile ∈ listing
  complete : ∀ profile ∈ listing, profile.account ∈ candidates → profile ∈ found
  once : found.Nodup

namespace Store

variable {policy : Policy} {moment : Moment} {store after : Store} {kind : Kind}
  {op : Body kind}

/-- Profiles are kept under the names of their accounts. -/
def Named (store : Store) : Prop :=
  ∀ (name : String) (profile : Profile), store.profiles[name]? = some profile →
    profile.account = name

theorem Named.of_does (named : Named store) (does : Does policy moment store kind op after) :
    Named after := by
  cases does with
  | register op =>
      intro name profile found
      rcases of_getElem?_insertIfNew found with ⟨rfl, rfl⟩ | kept
      · rfl
      · exact named name profile kept
  | @updateProfile op profile found avatar cover =>
      intro name changed hchanged
      rcases of_getElem?_insert hchanged with ⟨rfl, rfl⟩ | kept
      · exact named op.account profile found
      · exact named name changed kept
  | @setAccountTrusted op profile admin found =>
      intro name changed hchanged
      rcases of_getElem?_insert hchanged with ⟨rfl, rfl⟩ | kept
      · exact named op.blogAccount profile found
      · exact named name changed kept
  | follow | unfollow | uploadMedia | addToBlacklist | removeFromBlacklist | addCategory
  | removeCategory | updateCategory | upsertDraft | removeDraft | markNotificationRead
  | markAllNotificationsRead | markAllNotificationsSeen | updateProfileSettings
  | registerPushToken | castDownvote | removeDownvote => exact named

theorem named_empty : Named .empty := by
  intro name profile found
  cases found

theorem Reachable.named (reached : Reachable policy store) : Named store :=
  reached.invariant named_empty fun named does => named.of_does does

/-- Whoever reads a profile reads what is kept under the name. -/
theorem map_profile_eq_ok_iff {name : String} {profile : Profile} :
    (store.profile name).map ExtendedProfile.profile = .ok profile ↔
      store.profiles[name]? = some profile := by
  unfold Store.profile
  cases store.profiles[name]? with
  | none => simp [Except.map]
  | some kept => simp [Except.map]

namespace Named

/-- The names of the profiles that are found are the names that have a profile. -/
theorem map_account_filterMap (named : Named store) (names : List String) :
    (names.filterMap fun name => store.profiles[name]?).map Profile.account
      = names.filter (· ∈ store.profiles) := by
  induction names with
  | nil => rfl
  | cons name rest ih =>
      cases found : store.profiles[name]? with
      | none =>
          have unknown : name ∉ store.profiles := by
            rw [ExtTreeMap.mem_iff_isSome_getElem?, found]
            decide
          rw [List.filterMap_cons_none found, List.filter_cons_of_neg (by simpa using unknown), ih]
      | some profile =>
          have known : name ∈ store.profiles := by
            rw [ExtTreeMap.mem_iff_isSome_getElem?, found]
            rfl
          rw [List.filterMap_cons_some found, List.filter_cons_of_pos (by simpa using known),
            List.map_cons, ih, named name profile found]

/-- Whoever is looked up is found under its own name. -/
theorem mem_filterMap_iff (named : Named store) {names : List String} {profile : Profile} :
    profile ∈ names.filterMap (fun name => store.profiles[name]?) ↔
      profile.account ∈ names ∧ store.profiles[profile.account]? = some profile := by
  rw [List.mem_filterMap]
  constructor
  · rintro ⟨name, asked, found⟩
    obtain rfl := named name profile found
    exact ⟨asked, found⟩
  · rintro ⟨asked, found⟩
    exact ⟨_, asked, found⟩

/-- Profiles are picked from a listing by being looked up, when what is wanted of a name is that
its profile is listed. -/
theorem picks (named : Named store) {listing : List Profile} {wanted : String → Bool}
    (lists : ∀ profile, profile ∈ listing ↔
      store.profiles[profile.account]? = some profile ∧ wanted profile.account = true)
    (candidates : List String) :
    Picks listing candidates
      (((unique candidates).filter wanted).filterMap fun name => store.profiles[name]?) where
  names := by
    rw [named.map_account_filterMap, unique_eq_eraseDups, List.filter_filter]
    refine List.filter_congr fun name _ => ?_
    rw [Bool.eq_iff_iff, Bool.and_eq_true, decide_eq_true_iff, decide_eq_true_iff, List.mem_map]
    constructor
    · rintro ⟨known, want⟩
      rw [ExtTreeMap.mem_iff_isSome_getElem?, Option.isSome_iff_exists] at known
      obtain ⟨profile, found⟩ := known
      obtain rfl := named name profile found
      exact ⟨profile, (lists profile).mpr ⟨found, want⟩, rfl⟩
    · rintro ⟨profile, hmem, rfl⟩
      obtain ⟨found, want⟩ := (lists profile).mp hmem
      rw [ExtTreeMap.mem_iff_isSome_getElem?, found]
      exact ⟨rfl, want⟩
  listed := by
    intro profile hmem
    obtain ⟨asked, found⟩ := named.mem_filterMap_iff.mp hmem
    exact (lists profile).mpr ⟨found, (List.mem_filter.mp asked).2⟩
  complete := by
    intro profile hmem asked
    obtain ⟨found, want⟩ := (lists profile).mp hmem
    have picked := List.mem_filter.mpr ⟨mem_unique.mpr asked, want⟩
    exact named.mem_filterMap_iff.mpr ⟨picked, found⟩
  once := by
    refine List.Nodup.of_map Profile.account ?_
    rw [named.map_account_filterMap]
    exact ((nodup_uniqueBehind ∅ candidates).filter _).filter _

/-- At the far ends are the profiles that are found there. -/
theorem mem_ends (named : Named store) {near far : Following → String} {account : String}
    {profile : Profile} :
    profile ∈ store.ends near far account ↔
      store.profiles[profile.account]? = some profile ∧
        ∃ following ∈ store.follows, near following = account ∧
          far following = profile.account := by
  simp only [ends, List.mem_filterMap, List.mem_filter, List.mem_reverse, decide_eq_true_iff]
  constructor
  · rintro ⟨following, ⟨hmem, own⟩, found⟩
    obtain is := named _ profile found
    exact ⟨is ▸ found, following, hmem, own, is.symm⟩
  · rintro ⟨found, following, hmem, own, is⟩
    exact ⟨following, ⟨hmem, own⟩, is ▸ found⟩

theorem mem_allFollowers (named : Named store) {account : String} {profile : Profile} :
    profile ∈ store.allFollowers account ↔
      store.profiles[profile.account]? = some profile ∧
        store.isFollowing profile.account account = true := by
  refine named.mem_ends.trans (and_congr_right fun _ => ?_)
  rw [isFollowing, List.contains_iff_mem]
  constructor
  · rintro ⟨following, hmem, rfl, is⟩
    exact is ▸ hmem
  · exact fun hmem => ⟨_, hmem, rfl, rfl⟩

theorem mem_allFollowing (named : Named store) {account : String} {profile : Profile} :
    profile ∈ store.allFollowing account ↔
      store.profiles[profile.account]? = some profile ∧
        store.isFollowing account profile.account = true := by
  refine named.mem_ends.trans (and_congr_right fun _ => ?_)
  rw [isFollowing, List.contains_iff_mem]
  constructor
  · rintro ⟨following, hmem, rfl, is⟩
    exact is ▸ hmem
  · exact fun hmem => ⟨_, hmem, rfl, rfl⟩

/-- The profiles of a store are those that are found under the names of their accounts. -/
theorem mem_values (named : Named store) {profile : Profile} :
    profile ∈ store.profiles.values ↔ store.profiles[profile.account]? = some profile := by
  rw [mem_values_iff]
  constructor
  · rintro ⟨name, found⟩
    obtain rfl := named name profile found
    exact found
  · exact fun found => ⟨_, found⟩

theorem picks_profilesOf (named : Named store) (candidates : List String) :
    Picks store.profiles.values candidates (store.profilesOf candidates) := by
  have all : store.profilesOf candidates
      = ((unique candidates).filter fun _ => true).filterMap fun name => store.profiles[name]? := by
    rw [List.filter_true]
    rfl
  rw [all]
  refine named.picks (fun profile => ?_) candidates
  rw [named.mem_values, and_iff_left rfl]

end Named

/--
**What is picked by name is what the listings have under the names.**

In every store that a blog comes to, whoever asks which of some accounts follow an account is
answered with those of the names, each once and where it stands first, that the whole listing of
followers has; so it is with the accounts that an account follows.  Whoever asks for profiles is
answered with those of the names that have one.  Nobody is answered twice, and nobody is missing.
-/
theorem Reachable.picked_as_listed (reached : Reachable policy store) (account : String)
    (candidates : List String) :
    (∃ followers,
      (∀ start limit, store.followers account start limit = page followers start limit) ∧
      Picks followers candidates (store.filterFollowers account candidates)) ∧
    (∃ following,
      (∀ start limit, store.following account start limit = page following start limit) ∧
      Picks following candidates (store.filterFollowing account candidates)) ∧
    ∃ registered, (∀ name profile, (profile ∈ registered ∧ profile.account = name) ↔
        (store.profile name).map ExtendedProfile.profile = .ok profile) ∧
      Picks registered candidates (store.profilesOf candidates) := by
  have named := reached.named
  refine ⟨⟨_, fun _ _ => rfl, named.picks (fun _ => named.mem_allFollowers) candidates⟩,
    ⟨_, fun _ _ => rfl, named.picks (fun _ => named.mem_allFollowing) candidates⟩,
    store.profiles.values, fun name profile => ?_, named.picks_profilesOf candidates⟩
  rw [named.mem_values, map_profile_eq_ok_iff]
  constructor
  · rintro ⟨found, rfl⟩
    exact found
  · intro found
    obtain rfl := named name profile found
    exact ⟨found, rfl⟩

/-- Alice and carol follow bob, and so does one who has no profile. -/
private def threeFollowBob : Store :=
  Store.empty
    |>.perform .default default .register (⟨"alice"⟩ : Register)
    |>.perform .default default .register (⟨"bob"⟩ : Register)
    |>.perform .default default .register (⟨"carol"⟩ : Register)
    |>.perform .default default .register (⟨"dave"⟩ : Register)
    |>.perform .default default .follow (⟨"alice", "bob"⟩ : Follow)
    |>.perform .default default .follow (⟨"stranger", "bob"⟩ : Follow)
    |>.perform .default default .follow (⟨"carol", "bob"⟩ : Follow)

private theorem reachable_threeFollowBob : Reachable .default threeFollowBob :=
  ((((((Reachable.empty.perform _ _ _).perform _ _ _).perform _ _ _).perform _ _ _).perform
    _ _ _).perform _ _ _).perform _ _ _

/-- Some names twice, some of nobody who is known. -/
private def asked : List String := ["carol", "ghost", "alice", "carol", "stranger", "dave", "alice"]

/-- Of those who are asked for, carol and alice follow bob, and dave has a profile as well. -/
theorem carol_and_alice_picked :
    Reachable .default threeFollowBob ∧
    (∃ followers, threeFollowBob.followers "bob" 0 1000 = page followers 0 1000 ∧
      Picks followers asked (threeFollowBob.filterFollowers "bob" asked)) ∧
    (threeFollowBob.filterFollowers "bob" asked).map Profile.account = ["carol", "alice"] ∧
    (threeFollowBob.profilesOf asked).map Profile.account = ["carol", "alice", "dave"] := by
  obtain ⟨⟨followers, pages, picks⟩, -, -⟩ :=
    Reachable.picked_as_listed reachable_threeFollowBob "bob" asked
  exact ⟨reachable_threeFollowBob, ⟨followers, pages 0 1000, picks⟩, by decide +kernel,
    by decide +kernel⟩

end Store

end BlogGateway.Blog
