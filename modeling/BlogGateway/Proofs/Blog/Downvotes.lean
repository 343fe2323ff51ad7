/-
The downvotes of a post, told from the history.

The downvotes of all posts are kept in one list, in which one may be replaced where it stands,
added at the end or removed.  What that comes to is said here without the list.  A downvote
`Stands` when it was cast and its account has since neither cast another on the post nor taken
it back; an account `HasBegun` at the deed that cast the first of its downvotes since it last
took one back.  The listing of a post has exactly the downvotes that stand, one for an
account, and the accounts are listed in the order in which they have begun.

A deed either casts a downvote, or takes those of an account back, or leaves the downvotes
alone, and `Edits` says what each makes of the listing of one post.  That is set beside what
the deed makes of the history, one deed after the other.
-/
import BlogGateway.Proofs.Blog.History
import BlogGateway.Proofs.Blog.Isolation

namespace BlogGateway.Blog

open Operation

/-! ### Listings that are edited -/

namespace Downvote

theorem isOn_iff {author permlink : String} {downvote : Downvote} :
    downvote.isOn author permlink = true ↔
      downvote.author = author ∧ downvote.permlink = permlink := by
  simp [isOn]

theorem isCast_iff {account author permlink : String} {downvote : Downvote} :
    downvote.isCast account author permlink = true ↔
      downvote.account = account ∧ downvote.isOn author permlink = true := by
  simp [isCast]

/-- Among the downvotes of a post, those of an account are told by the account alone. -/
theorem isCast_iff_of_isOn {account author permlink : String} {downvote : Downvote}
    (on : downvote.isOn author permlink = true) :
    downvote.isCast account author permlink = true ↔ downvote.account = account := by
  rw [isCast_iff, and_iff_left on]

/-- Casting a downvote concerns the listing of its own post alone. -/
theorem filter_isOn_put (downvote : Downvote) (author permlink : String)
    (downvotes : List Downvote) :
    (downvote.put downvotes).filter (isOn author permlink)
      = if downvote.isOn author permlink then downvote.put (downvotes.filter (isOn author permlink))
        else downvotes.filter (isOn author permlink) := by
  induction downvotes with
  | nil =>
      by_cases on : downvote.isOn author permlink = true
      · simp [put, on]
      · simp [put, on]
  | cons first rest ih =>
      rw [put]
      by_cases own : first.isCast downvote.account downvote.author downvote.permlink = true
      · have same : first.isOn author permlink = downvote.isOn author permlink := by
          obtain ⟨hauthor, hpermlink⟩ := isOn_iff.mp (isCast_iff.mp own).2
          rw [isOn, isOn, hauthor, hpermlink]
        by_cases on : downvote.isOn author permlink = true
        · simp [own, same, on, put]
        · simp [own, same, on]
      · rw [if_neg own, List.filter_cons, List.filter_cons, ih]
        by_cases on : downvote.isOn author permlink = true
        · by_cases onToo : first.isOn author permlink = true
          · simp [on, onToo, put, own]
          · simp [on, onToo]
        · simp [on]

section Listing

variable {downvote : Downvote} {listed : List Downvote}
  (onPost : ∀ d ∈ listed, d.isOn downvote.author downvote.permlink = true)
include onPost

/-- In the listing of its post a downvote takes the place of the account's own, or comes
last. -/
theorem map_account_put :
    (downvote.put listed).map (·.account)
      = if downvote.account ∈ listed.map (·.account) then listed.map (·.account)
        else listed.map (·.account) ++ [downvote.account] := by
  induction listed with
  | nil => simp [put]
  | cons first rest ih =>
      have own : first.isCast downvote.account downvote.author downvote.permlink = true ↔
          first.account = downvote.account :=
        isCast_iff_of_isOn (onPost first (List.mem_cons_self ..))
      rw [put]
      by_cases same : first.account = downvote.account
      · simp [own.mpr same, same]
      · have other : downvote.account ≠ first.account := Ne.symm same
        rw [if_neg (mt own.mp same), List.map_cons,
          ih fun d hmem => onPost d (List.mem_cons_of_mem _ hmem)]
        simp only [List.map_cons, List.mem_cons, other, false_or]
        split
        · rfl
        · rfl

/-- In a listing of different accounts nothing is left of the account but the downvote. -/
theorem mem_put_iff (differ : (listed.map (·.account)).Nodup) {d : Downvote} :
    d ∈ downvote.put listed ↔ d = downvote ∨ d ∈ listed ∧ d.account ≠ downvote.account := by
  induction listed with
  | nil => simp [put]
  | cons first rest ih =>
      have own : first.isCast downvote.account downvote.author downvote.permlink = true ↔
          first.account = downvote.account :=
        isCast_iff_of_isOn (onPost first (List.mem_cons_self ..))
      rw [List.map_cons, List.nodup_cons] at differ
      obtain ⟨new, differ⟩ := differ
      rw [put]
      by_cases same : first.account = downvote.account
      · have others : ∀ d ∈ rest, d.account ≠ downvote.account := by
          intro d hmem h
          refine new (List.mem_map.mpr ⟨d, hmem, ?_⟩)
          rw [h, same]
        rw [if_pos (own.mpr same), List.mem_cons, List.mem_cons]
        constructor
        · rintro (rfl | hmem)
          · exact .inl rfl
          · exact .inr ⟨.inr hmem, others d hmem⟩
        · rintro (rfl | ⟨rfl | hmem, h⟩)
          · exact .inl rfl
          · exact absurd same h
          · exact .inr hmem
      · rw [if_neg (mt own.mp same), List.mem_cons, List.mem_cons,
          ih (fun d hmem => onPost d (List.mem_cons_of_mem _ hmem)) differ]
        constructor
        · rintro (rfl | rfl | ⟨hmem, h⟩)
          · exact .inr ⟨.inl rfl, same⟩
          · exact .inl rfl
          · exact .inr ⟨.inr hmem, h⟩
        · rintro (rfl | ⟨rfl | hmem, h⟩)
          · exact .inr (.inl rfl)
          · exact .inl rfl
          · exact .inr (.inr ⟨hmem, h⟩)

end Listing

end Downvote

/-! ### What a deed does to downvotes -/

/-- The deed casts the downvote.  With a reason that there is not it casts none. -/
inductive Deed.Casts : Deed → Downvote → Prop
  | downvote (moment : Moment) (op : Operation.Downvote) {reason : DownvoteReason}
      (reasoned : DownvoteReason.ofText? op.reason = some reason) :
      Casts ⟨moment, .downvote, op⟩ ⟨op.account, op.author, op.permlink, reason, op.comment⟩

/-- The deed takes back what the account has cast on the post. -/
inductive Deed.TakesBack (account author permlink : String) : Deed → Prop
  | removeDownvote (moment : Moment) :
      TakesBack account author permlink ⟨moment, .removeDownvote, ⟨account, author, permlink⟩⟩

/-- A deed casts one downvote at most. -/
theorem Deed.Casts.unique {deed : Deed} {downvote downvote' : Downvote}
    (casts : deed.Casts downvote) (casts' : deed.Casts downvote') : downvote = downvote' := by
  cases casts with
  | downvote moment op reasoned =>
      cases casts' with
      | downvote _ _ reasoned' => rw [Option.some.inj (reasoned.symm.trans reasoned')]

/-- A deed casts a downvote, or takes downvotes back, or neither. -/
theorem Deed.casts_or_takesBack (deed : Deed) :
    (∃ downvote, deed.Casts downvote) ∨
    (∃ account author permlink, deed.TakesBack account author permlink) ∨
    (∀ downvote, ¬ deed.Casts downvote) ∧
      ∀ account author permlink, ¬ deed.TakesBack account author permlink := by
  obtain ⟨moment, kind, op⟩ := deed
  cases kind with
  | downvote =>
      cases reasoned : DownvoteReason.ofText? (Operation.Downvote.reason op) with
      | some reason => exact .inl ⟨_, .downvote moment op reasoned⟩
      | none =>
          refine .inr (.inr ⟨?_, ?_⟩)
          · intro downvote casts
            cases casts with
            | downvote _ _ reasoned' =>
                rw [reasoned] at reasoned'
                cases reasoned'
          · intro account author permlink takesBack
            cases takesBack
  | removeDownvote => exact .inr (.inl ⟨_, _, _, .removeDownvote moment⟩)
  | _ =>
      refine .inr (.inr ⟨?_, ?_⟩)
      · intro downvote casts
        cases casts
      · intro account author permlink takesBack
        cases takesBack

namespace Store

variable (policy : Policy) (store : Store) {deed : Deed}

theorem downvotes_of_casts {downvote : Downvote} (casts : deed.Casts downvote) :
    (store.performDeed policy deed).downvotes = downvote.put store.downvotes := by
  cases casts with
  | downvote moment op reasoned =>
      unfold performDeed
      rw [perform_of_ok (apply_of_does (.castDownvote op reasoned))]

/-- Nothing is left of what the account has cast on the post, and if it has cast nothing then
all is left. -/
theorem downvotes_of_takesBack {account author permlink : String}
    (takesBack : deed.TakesBack account author permlink) :
    (store.performDeed policy deed).downvotes
      = store.downvotes.filter fun downvote => !downvote.isCast account author permlink := by
  cases takesBack with
  | removeDownvote moment =>
      unfold performDeed
      by_cases cast : store.downvotes.any (Downvote.isCast account author permlink) = true
      · rw [perform_of_ok (apply_of_does (.removeDownvote ⟨account, author, permlink⟩ cast))]
      · have failed : apply policy moment .removeDownvote ⟨account, author, permlink⟩ store
            = .error (.of .downvoteNotFound "downvote not found") := by
          simp [apply, removeDownvote, cast]
        rw [perform_of_error failed]
        refine (List.filter_eq_self.mpr fun downvote hmem => ?_).symm
        rw [Bool.not_eq_true, List.any_eq_false] at cast
        simpa using cast downvote hmem

theorem downvotes_of_neither (casts : ∀ downvote, ¬ deed.Casts downvote)
    (takesBack : ∀ account author permlink, ¬ deed.TakesBack account author permlink) :
    (store.performDeed policy deed).downvotes = store.downvotes := by
  obtain ⟨moment, kind, op⟩ := deed
  have kept : ∀ {after : Store}, Does policy moment store kind op after →
      after.downvotes = store.downvotes := by
    intro after does
    cases does with
    | castDownvote op reasoned => exact absurd (.downvote moment op reasoned) (casts _)
    | removeDownvote op cast => exact absurd (.removeDownvote moment) (takesBack _ _ _)
    | _ => rfl
  refine perform_invariant ?_ kept
  rfl

end Store

/-! ### What a deed does to the listing of a post -/

/-- The deed casts a downvote of the account on the post. -/
def Deed.CastsFor (account author permlink : String) (deed : Deed) : Prop :=
  ∃ downvote, deed.Casts downvote ∧ downvote.isCast account author permlink = true

/-- What becomes of the listing of a post by a deed. -/
inductive Deed.Edits (author permlink : String) (deed : Deed) (listed : List Downvote) :
    List Downvote → Prop
  | cast {downvote : Downvote} (casts : deed.Casts downvote)
      (on : downvote.isOn author permlink = true) :
      Edits author permlink deed listed (downvote.put listed)
  | takeBack {account : String} (takesBack : deed.TakesBack account author permlink) :
      Edits author permlink deed listed (listed.filter (·.account ≠ account))
  | leave (casts : ∀ account, ¬ deed.CastsFor account author permlink)
      (takesBack : ∀ account, ¬ deed.TakesBack account author permlink) :
      Edits author permlink deed listed listed

section Deeds

variable {deed : Deed} {account author permlink : String} {downvote : Downvote}

theorem Deed.Casts.castsFor_iff (casts : deed.Casts downvote)
    (on : downvote.isOn author permlink = true) :
    deed.CastsFor account author permlink ↔ account = downvote.account := by
  constructor
  · rintro ⟨downvote', casts', cast⟩
    rw [casts.unique casts']
    exact (Downvote.isCast_iff.mp cast).1.symm
  · rintro rfl
    exact ⟨downvote, casts, Downvote.isCast_iff.mpr ⟨rfl, on⟩⟩

theorem Deed.Casts.not_takesBack (casts : deed.Casts downvote) :
    ¬ deed.TakesBack account author permlink := by
  intro takesBack
  cases casts
  cases takesBack

theorem Deed.TakesBack.takesBack_iff (takesBack : deed.TakesBack account author permlink)
    {account' : String} :
    deed.TakesBack account' author permlink ↔ account' = account := by
  constructor
  · intro takesBack'
    cases takesBack
    cases takesBack'
    rfl
  · rintro rfl
    exact takesBack

theorem Deed.CastsFor.not_takesBack (castsFor : deed.CastsFor account author permlink) :
    ¬ deed.TakesBack account author permlink := by
  obtain ⟨downvote, casts, -⟩ := castsFor
  exact casts.not_takesBack

end Deeds

namespace Store

theorem edits_performDeed (policy : Policy) (store : Store) (deed : Deed)
    (author permlink : String) :
    deed.Edits author permlink (store.downvotesOn author permlink)
      ((store.performDeed policy deed).downvotesOn author permlink) := by
  unfold downvotesOn
  obtain ⟨downvote, casts⟩ | ⟨account, author', permlink', takesBack⟩ | ⟨casts, takesBack⟩ :=
    deed.casts_or_takesBack
  · rw [downvotes_of_casts policy store casts, Downvote.filter_isOn_put]
    split
    · rename_i on
      exact .cast casts on
    · rename_i off
      refine .leave ?_ fun account => casts.not_takesBack
      rintro account ⟨downvote', casts', cast⟩
      rw [casts.unique casts'] at off
      exact off (Downvote.isCast_iff.mp cast).2
  · have commuted : (store.performDeed policy deed).downvotes.filter
          (Downvote.isOn author permlink)
        = (store.downvotes.filter (Downvote.isOn author permlink)).filter
          fun downvote => !downvote.isCast account author' permlink' := by
      rw [downvotes_of_takesBack policy store takesBack, List.filter_filter, List.filter_filter]
      exact List.filter_congr fun downvote _ => Bool.and_comm ..
    rw [commuted]
    by_cases on : author' = author ∧ permlink' = permlink
    · obtain ⟨rfl, rfl⟩ := on
      have left : (store.downvotes.filter (Downvote.isOn author' permlink')).filter
            (fun downvote => !downvote.isCast account author' permlink')
          = (store.downvotes.filter (Downvote.isOn author' permlink')).filter
            (·.account ≠ account) := by
        refine List.filter_congr fun downvote hmem => ?_
        simp [Downvote.isCast, (List.mem_filter.mp hmem).2]
      rw [left]
      exact .takeBack takesBack
    · have left : (store.downvotes.filter (Downvote.isOn author permlink)).filter
            (fun downvote => !downvote.isCast account author' permlink')
          = store.downvotes.filter (Downvote.isOn author permlink) := by
        refine List.filter_eq_self.mpr fun downvote hmem => ?_
        obtain ⟨rfl, rfl⟩ := Downvote.isOn_iff.mp (List.mem_filter.mp hmem).2
        simp only [Downvote.isCast, Downvote.isOn, Bool.not_eq_true', Bool.and_eq_false_iff,
          decide_eq_false_iff_not]
        exact .inr (not_and_or.mp fun same => on ⟨same.1.symm, same.2.symm⟩)
      rw [left]
      refine .leave ?_ fun account' takesBack' => ?_
      · rintro account' ⟨downvote, casts, -⟩
        exact casts.not_takesBack takesBack
      · cases takesBack
        cases takesBack'
        exact on ⟨rfl, rfl⟩
  · rw [downvotes_of_neither policy store casts takesBack]
    refine .leave ?_ fun account => takesBack account author permlink
    rintro account ⟨downvote, casts', -⟩
    exact casts downvote casts'

theorem isOn_of_mem_downvotesOn {store : Store} {author permlink : String}
    {downvote : Downvote} (listed : downvote ∈ store.downvotesOn author permlink) :
    downvote.isOn author permlink = true := (List.mem_filter.mp listed).2

end Store

section Edits

variable {deed : Deed} {author permlink : String} {listed listed' : List Downvote}
  (edits : deed.Edits author permlink listed listed')
  (onPost : ∀ d ∈ listed, d.isOn author permlink = true)
include edits onPost

/-- An account is listed after a deed by which it casts a downvote, or if it was and does not
take its downvote back. -/
theorem Deed.Edits.mem_accounts {account : String} :
    account ∈ listed'.map (·.account) ↔
      deed.CastsFor account author permlink ∨
        account ∈ listed.map (·.account) ∧ ¬ deed.TakesBack account author permlink := by
  cases edits with
  | @cast downvote casts on =>
      obtain ⟨rfl, rfl⟩ := Downvote.isOn_iff.mp on
      rw [Downvote.map_account_put onPost, casts.castsFor_iff on,
        and_iff_left casts.not_takesBack]
      split
      · rename_i own
        refine ⟨.inr, ?_⟩
        rintro (rfl | hmem)
        · exact own
        · exact hmem
      · rw [List.mem_append, List.mem_singleton, or_comm]
  | @takeBack remover takesBack =>
      have noCast : ¬ deed.CastsFor account author permlink := by
        rintro ⟨downvote, casts, -⟩
        exact casts.not_takesBack takesBack
      rw [or_iff_right noCast, takesBack.takesBack_iff]
      simp only [ne_eq, decide_not, List.mem_map, List.mem_filter, Bool.not_eq_true',
        decide_eq_false_iff_not]
      constructor
      · rintro ⟨downvote, ⟨hmem, other⟩, rfl⟩
        exact ⟨⟨downvote, hmem, rfl⟩, other⟩
      · rintro ⟨⟨downvote, hmem, rfl⟩, other⟩
        exact ⟨downvote, ⟨hmem, other⟩, rfl⟩
  | leave casts takesBack => rw [or_iff_right (casts account), and_iff_left (takesBack account)]

/-- Accounts stay listed in their order, and one that is new comes last. -/
theorem Deed.Edits.accounts_sublist_or_snoc :
    (listed'.map (·.account)).Sublist (listed.map (·.account)) ∨
      ∃ account, deed.CastsFor account author permlink ∧ account ∉ listed.map (·.account) ∧
        listed'.map (·.account) = listed.map (·.account) ++ [account] := by
  cases edits with
  | @cast downvote casts on =>
      have castsFor := (casts.castsFor_iff on).mpr rfl
      obtain ⟨rfl, rfl⟩ := Downvote.isOn_iff.mp on
      rw [Downvote.map_account_put onPost]
      split
      · exact .inl (List.Sublist.refl _)
      · rename_i new
        exact .inr ⟨downvote.account, castsFor, new, rfl⟩
  | takeBack takesBack => exact .inl (List.filter_sublist.map _)
  | leave casts takesBack => exact .inl (List.Sublist.refl _)

/-- A downvote is listed after the deed that casts it, or if it was and its account neither
casts another nor takes it back. -/
theorem Deed.Edits.mem (differ : (listed.map (·.account)).Nodup) {d : Downvote} :
    d ∈ listed' ↔
      deed.Casts d ∧ d.isOn author permlink = true ∨
        d ∈ listed ∧ ¬ (deed.CastsFor d.account author permlink ∨
          deed.TakesBack d.account author permlink) := by
  cases edits with
  | @cast downvote casts on =>
      have isIt : deed.Casts d ∧ d.isOn author permlink = true ↔ d = downvote := by
        constructor
        · exact fun casts' => casts'.1.unique casts
        · rintro rfl
          exact ⟨casts, on⟩
      rw [isIt, casts.castsFor_iff on, or_iff_left casts.not_takesBack]
      obtain ⟨rfl, rfl⟩ := Downvote.isOn_iff.mp on
      exact Downvote.mem_put_iff onPost differ
  | @takeBack remover takesBack =>
      have noCast : ∀ downvote, ¬ deed.Casts downvote :=
        fun downvote casts => casts.not_takesBack takesBack
      have noCastFor : ¬ deed.CastsFor d.account author permlink :=
        fun castsFor => noCast _ castsFor.choose_spec.1
      rw [or_iff_right fun casts => noCast d casts.1, or_iff_right noCastFor,
        takesBack.takesBack_iff, List.mem_filter, decide_eq_true_eq]
  | leave casts takesBack =>
      have noCast : ¬ (deed.Casts d ∧ d.isOn author permlink = true) :=
        fun isCast => casts d.account ⟨d, isCast.1, Downvote.isCast_iff.mpr ⟨rfl, isCast.2⟩⟩
      rw [or_iff_right noCast, and_iff_left]
      rintro (castsFor | back)
      · exact casts d.account castsFor
      · exact takesBack d.account back

end Edits

/-! ### What the history tells -/

open History

/-- The account has cast a downvote on the post, and has not taken it back since. -/
def HasCast (account author permlink : String) : List Deed → Prop :=
  Since (Deed.CastsFor account author permlink) (Deed.TakesBack account author permlink)

/-- Since the account last took a downvote of the post back, the deed at the place is the first
by which it has cast one. -/
def HasBegun (account author permlink : String) : List Deed → Nat → Prop :=
  FirstSince (Deed.CastsFor account author permlink) (Deed.TakesBack account author permlink)

/-- The downvote was cast, and its account has since neither cast another on the post nor
taken it back. -/
def Downvote.Stands (downvote : Downvote) : List Deed → Prop :=
  Since (·.Casts downvote) fun deed =>
    deed.CastsFor downvote.account downvote.author downvote.permlink ∨
      deed.TakesBack downvote.account downvote.author downvote.permlink

theorem exists_hasBegun_iff {account author permlink : String} {deeds : List Deed} :
    (∃ i, HasBegun account author permlink deeds i) ↔ HasCast account author permlink deeds :=
  exists_firstSince_iff fun _ => Deed.CastsFor.not_takesBack

namespace Store

variable (policy : Policy) (deeds : List Deed) {account author permlink : String}

/-- The accounts that a post is downvoted by, as they are listed. -/
def downvotersOf (store : Store) (author permlink : String) : List String :=
  (store.downvotesOn author permlink).map (·.account)

theorem mem_downvotersOf_iff :
    account ∈ (after policy deeds).downvotersOf author permlink ↔
      HasCast account author permlink deeds := by
  induction deeds using List.reverseRecOn with
  | nil => exact iff_of_false List.not_mem_nil not_since_nil
  | append_singleton deeds deed ih =>
      have edits := edits_performDeed policy (after policy deeds) deed author permlink
      rw [HasCast, since_snoc, after_snoc, downvotersOf,
        edits.mem_accounts fun d => isOn_of_mem_downvotesOn]
      exact or_congr_right (and_congr_left' ih)

/-- Of two accounts the one that has begun before the other is listed before it. -/
theorem pairwise_downvotersOf :
    ((after policy deeds).downvotersOf author permlink).Pairwise fun account account' =>
      ∃ i j, HasBegun account author permlink deeds i ∧
        HasBegun account' author permlink deeds j ∧ i < j := by
  induction deeds using List.reverseRecOn with
  | nil => exact .nil
  | append_singleton deeds deed ih =>
      have edits := edits_performDeed policy (after policy deeds) deed author permlink
      have onPost : ∀ d ∈ (after policy deeds).downvotesOn author permlink,
          d.isOn author permlink = true := fun d => isOn_of_mem_downvotesOn
      rw [after_snoc]
      -- whoever is still listed has begun where it had
      have kept : ∀ {account i},
          account ∈ ((after policy deeds).performDeed policy deed).downvotersOf author permlink →
          HasBegun account author permlink deeds i →
          HasBegun account author permlink (deeds ++ [deed]) i := by
        intro account i stays begun
        refine firstSince_snoc.mpr (.inl ⟨begun, ?_⟩)
        obtain casts | ⟨-, notTaken⟩ := (edits.mem_accounts onPost).mp stays
        · exact casts.not_takesBack
        · exact notTaken
      obtain sublist | ⟨new, casts, notListed, snoc⟩ := edits.accounts_sublist_or_snoc onPost
      · refine (ih.sublist sublist).imp_of_mem fun stays stays' => ?_
        rintro ⟨i, j, begun, begun', earlier⟩
        exact ⟨i, j, kept stays begun, kept stays' begun', earlier⟩
      · unfold downvotersOf at kept ⊢
        rw [snoc] at kept ⊢
        refine List.pairwise_append.mpr ⟨?_, List.pairwise_singleton .., ?_⟩
        · refine ih.imp_of_mem fun stays stays' => ?_
          rintro ⟨i, j, begun, begun', earlier⟩
          exact ⟨i, j, kept (List.mem_append_left _ stays) begun,
            kept (List.mem_append_left _ stays') begun', earlier⟩
        · intro account hmem account' isNew
          obtain rfl := List.mem_singleton.mp isNew
          obtain ⟨i, begun⟩ := exists_hasBegun_iff.mpr ((mem_downvotersOf_iff policy deeds).mp hmem)
          refine ⟨i, deeds.length, kept (List.mem_append_left _ hmem) begun, ?_,
            begun.done.lt_length⟩
          exact firstSince_snoc.mpr
            (.inr ⟨rfl, casts, mt (mem_downvotersOf_iff policy deeds).mpr notListed⟩)

theorem nodup_downvotersOf : ((after policy deeds).downvotersOf author permlink).Nodup := by
  refine (pairwise_downvotersOf policy deeds).imp ?_
  rintro account _ ⟨i, j, begun, begun', earlier⟩ rfl
  exact absurd (begun.unique begun') (Nat.ne_of_lt earlier)

theorem mem_downvotesOn_iff {downvote : Downvote} :
    downvote ∈ (after policy deeds).downvotesOn author permlink ↔
      downvote.isOn author permlink = true ∧ downvote.Stands deeds := by
  induction deeds using List.reverseRecOn with
  | nil => exact iff_of_false List.not_mem_nil fun stands => not_since_nil stands.2
  | append_singleton deeds deed ih =>
      have edits := edits_performDeed policy (after policy deeds) deed author permlink
      rw [after_snoc,
        edits.mem (fun d => isOn_of_mem_downvotesOn) (nodup_downvotersOf policy deeds), ih,
        Downvote.Stands, since_snoc, and_or_left, and_comm, and_assoc]
      refine or_congr_right (and_congr_right fun on => ?_)
      obtain ⟨rfl, rfl⟩ := Downvote.isOn_iff.mp on
      rfl

/-! ### When downvoting succeeds -/

/-- The deeds that cast a downvote are the operations to downvote that succeed. -/
theorem casts_iff_succeeded (store : Store) (deed : Deed) :
    (∃ downvote, deed.Casts downvote) ↔
      deed.kind = .downvote ∧
        (InPlace.apply policy deed.moment deed.kind deed.op store).result = .ok () := by
  constructor
  · rintro ⟨_, casts⟩
    cases casts with
    | downvote moment op reasoned => exact ⟨rfl, result_of_does (.castDownvote op reasoned)⟩
  · obtain ⟨moment, kind, op⟩ := deed
    rintro ⟨isDownvote, succeeded⟩
    obtain rfl : kind = .downvote := isDownvote
    obtain ⟨later, does⟩ := exists_does_of_result succeeded
    cases does with
    | castDownvote op reasoned => exact ⟨_, .downvote moment op reasoned⟩

theorem removeDownvote_result (store : Store) (moment : Moment) (op : RemoveDownvote) :
    (InPlace.apply policy moment .removeDownvote op store).result
      = if op.account ∈ store.downvotersOf op.author op.permlink then .ok ()
        else .error (.of .downvoteNotFound "downvote not found") := by
  have isCast : store.downvotes.any (Downvote.isCast op.account op.author op.permlink) = true ↔
      op.account ∈ store.downvotersOf op.author op.permlink := by
    simp only [downvotersOf, downvotesOn, List.any_eq_true, List.mem_map, List.mem_filter,
      Downvote.isCast_iff]
    constructor
    · rintro ⟨downvote, hmem, own, on⟩
      exact ⟨downvote, ⟨hmem, on⟩, own⟩
    · rintro ⟨downvote, ⟨hmem, on⟩, own⟩
      exact ⟨downvote, hmem, own, on⟩
  refine (congrArg (·.result) (congrFun
    (InPlace.apply_eq_update policy moment .removeDownvote op) store)).trans ?_
  split
  · rename_i listed
    simp only [Run.update, apply_of_does (.removeDownvote op (isCast.mpr listed))]
  · rename_i unlisted
    have none : store.downvotes.any (Downvote.isCast op.account op.author op.permlink) = false :=
      Bool.eq_false_iff.mpr (mt isCast.mp unlisted)
    simp [Run.update, apply, removeDownvote, none]

/--
**The downvotes of a post are those that stand, in the order in which accounts have begun.**

Whatever has been done to the blog, no account is listed twice; those accounts are listed that
have cast a downvote on the post, which is to say an operation to downvote has succeeded, and
have not taken it back since; what is shown of each is the last downvote it has cast, and the
accounts are ordered by the first that they have cast since they last took one back.  Taking a
downvote back fails for an account that has none, and for no other.
-/
theorem downvotes_of_history (author permlink : String) :
    ((after policy deeds).downvotersOf author permlink).Nodup ∧
    (∀ account, account ∈ (after policy deeds).downvotersOf author permlink ↔
      HasCast account author permlink deeds) ∧
    (∀ downvote, downvote ∈ (after policy deeds).downvotesOn author permlink ↔
      downvote.isOn author permlink = true ∧ downvote.Stands deeds) ∧
    (((after policy deeds).downvotersOf author permlink).Pairwise fun account account' =>
      ∃ i j, HasBegun account author permlink deeds i ∧
        HasBegun account' author permlink deeds j ∧ i < j) ∧
    (∀ (store : Store) (deed : Deed), (∃ downvote, deed.Casts downvote) ↔
      deed.kind = .downvote ∧
        (InPlace.apply policy deed.moment deed.kind deed.op store).result = .ok ()) ∧
    ∀ moment account,
      (∃ error, (InPlace.apply policy moment .removeDownvote ⟨account, author, permlink⟩
        (after policy deeds)).result = .error error) ↔ ¬ HasCast account author permlink deeds := by
  refine ⟨nodup_downvotersOf policy deeds, fun account => mem_downvotersOf_iff policy deeds,
    fun downvote => mem_downvotesOn_iff policy deeds, pairwise_downvotersOf policy deeds,
    casts_iff_succeeded policy, fun moment account => ?_⟩
  rw [removeDownvote_result policy _ moment ⟨account, author, permlink⟩,
    ← mem_downvotersOf_iff policy deeds]
  split
  · rename_i listed
    simp [listed]
  · rename_i unlisted
    simp [unlisted]

/-- Whoever casts another downvote keeps the place, and whoever takes it back loses it. -/
example :
    let cast (account : String) : Deed := ⟨default, .downvote, ⟨account, "bob", "post", "spam", ""⟩⟩
    let takeBack (account : String) : Deed := ⟨default, .removeDownvote, ⟨account, "bob", "post"⟩⟩
    (after .default [cast "alice", cast "carol", cast "alice"]).downvotersOf "bob" "post"
        = ["alice", "carol"] ∧
      (after .default [cast "alice", cast "carol", takeBack "alice",
        cast "alice"]).downvotersOf "bob" "post" = ["carol", "alice"] := by
  decide

end Store

end BlogGateway.Blog
