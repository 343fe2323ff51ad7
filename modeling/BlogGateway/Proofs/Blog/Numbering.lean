/-
The numbers of categories.

Both domains have their categories in one list.  Whoever edits the categories of one domain
shifts those of the other about, but never puts one of them before another, and numbers only
the edited domain anew.  So what is to be said of a list of categories is said of the parts
that belong to each domain: the edited part is numbered from one because it has just been
numbered, and the other part is the one that was there before, numbers and all.
-/
import BlogGateway.Blog.View
import BlogGateway.Proofs.Blog.Categories

namespace BlogGateway.Blog

open Operation

theorem Domain.ofText?_text (domain : Domain) : Domain.ofText? domain.text = some domain := by
  cases domain <;> rfl

namespace Category

variable {domain other : Domain} {label : String} {category : Category}
  {categories edited : List Category}

/-- The categories of the domain carry the numbers one, two and so on. -/
def Numbered (domain : Domain) (categories : List Category) : Prop :=
  (categories.filter (·.domain = domain)).map order
    = (List.range' 1 (categories.filter (·.domain = domain)).length).map UInt32.ofNat

/-! ### The domain that is numbered -/

theorem filter_renumberAfter_cons (count : Nat) (category : Category)
    (rest : List Category) :
    (renumberAfter domain count (category :: rest)).filter (·.domain = domain)
      = if category.domain = domain then
          { category with order := UInt32.ofNat (count + 1) }
            :: (renumberAfter domain (count + 1) rest).filter (·.domain = domain)
        else (renumberAfter domain count rest).filter (·.domain = domain) := by
  rw [renumberAfter]
  by_cases own : category.domain = domain
  · rw [if_pos own, if_pos own]
    exact List.filter_cons_of_pos (decide_eq_true own)
  · rw [if_neg own, if_neg own]
    exact List.filter_cons_of_neg (by simpa using own)

/-- The numbers go on where the count has come to, without a gap. -/
theorem map_order_renumberAfter (domain : Domain) (count : Nat) (categories : List Category) :
    ((renumberAfter domain count categories).filter (·.domain = domain)).map order
      = (List.range' (count + 1)
          ((renumberAfter domain count categories).filter (·.domain = domain)).length).map
            UInt32.ofNat := by
  induction categories generalizing count with
  | nil => rfl
  | cons category rest ih =>
      rw [filter_renumberAfter_cons]
      split
      · rw [List.map_cons, List.length_cons, List.range'_succ, List.map_cons, ih]
      · exact ih count

theorem numbered_renumber (domain : Domain) (categories : List Category) :
    Numbered domain (renumber domain categories) :=
  map_order_renumberAfter domain 0 categories

/-! ### The other domain -/

theorem filter_renumberAfter_of_ne (different : other ≠ domain) (count : Nat)
    (categories : List Category) :
    (renumberAfter domain count categories).filter (·.domain = other)
      = categories.filter (·.domain = other) := by
  induction categories generalizing count with
  | nil => rfl
  | cons category rest ih =>
      rw [renumberAfter]
      split
      · rename_i own
        have passed : category.domain ≠ other := fun same => different (same.symm.trans own)
        rw [List.filter_cons_of_neg (by simpa using passed),
          List.filter_cons_of_neg (by simpa using passed), ih]
      · rw [List.filter_cons, List.filter_cons, ih]

theorem filter_insertAt_of_ne (different : category.domain ≠ other) (position : Nat)
    (categories : List Category) :
    (insertAt category position categories).filter (·.domain = other)
      = categories.filter (·.domain = other) := by
  have passed : ¬ decide (category.domain = other) = true := by simpa using different
  induction categories generalizing position with
  | nil => exact List.filter_cons_of_neg passed
  | cons next rest ih =>
      rcases insertAt_cons_cases category position next rest with here | ⟨further, there⟩
      · rw [here]
        exact List.filter_cons_of_neg passed
      · rw [there, List.filter_cons, List.filter_cons, ih]

theorem filter_eraseP_of_ne (different : other ≠ domain) (label : String)
    (categories : List Category) :
    (categories.eraseP (isNamed domain label)).filter (·.domain = other)
      = categories.filter (·.domain = other) := by
  induction categories with
  | nil => rfl
  | cons category rest ih =>
      rw [List.eraseP_cons]
      by_cases named : isNamed domain label category = true
      · have own : category.domain = domain := congrArg Prod.fst (isNamed_iff.mp named)
        have passed : category.domain ≠ other := fun same => different (same.symm.trans own)
        rw [named, cond_true, List.filter_cons_of_neg (by simpa using passed)]
      · rw [Bool.not_eq_true] at named
        rw [named, cond_false, List.filter_cons, List.filter_cons, ih]

/-- To move a category within its domain leaves the other one as it is. -/
theorem filter_move_of_ne (category : Category) (own : category.domain = domain)
    (different : other ≠ domain) (position : Nat) (label : String) (categories : List Category) :
    (insertAt category position (categories.eraseP (isNamed domain label))).filter
        (·.domain = other)
      = categories.filter (·.domain = other) := by
  have elsewhere : category.domain ≠ other := fun same => different (same.symm.trans own)
  rw [filter_insertAt_of_ne elsewhere, filter_eraseP_of_ne different]

/-! ### Both domains -/

/-- To number an edited domain leaves every domain numbered when the edit has left the other
one alone. -/
theorem Numbered.renumber_edited (numbered : ∀ other, Numbered other categories)
    (spared : ∀ other, other ≠ domain →
      edited.filter (·.domain = other) = categories.filter (·.domain = other))
    (other : Domain) : Numbered other (renumber domain edited) := by
  by_cases same : other = domain
  · rw [same]
    exact numbered_renumber domain edited
  · have left : (renumber domain edited).filter (·.domain = other)
        = categories.filter (·.domain = other) :=
      (filter_renumberAfter_of_ne same 0 edited).trans (spared other same)
    unfold Numbered
    rw [left]
    exact numbered other

/-- As long as there are not too many, no number is cut off. -/
theorem map_toNat_order {listing : List Category} {count : Nat}
    (numbered : listing.map order = (List.range' 1 count).map UInt32.ofNat)
    (few : count < UInt32.size) : listing.map (·.order.toNat) = List.range' 1 count := by
  have fits : ∀ number ∈ List.range' 1 count,
      (UInt32.toNat ∘ UInt32.ofNat) number = id number := by
    intro number hmem
    have range := List.mem_range'_1.mp hmem
    exact UInt32.toNat_ofNat_of_lt' (by omega)
  calc listing.map (·.order.toNat)
      = (listing.map order).map UInt32.toNat := by
        rw [List.map_map]
        rfl
    _ = List.range' 1 count := by
        rw [numbered, List.map_map, List.map_congr_left fits, List.map_id]

theorem Numbered.map_toNat (numbered : Numbered domain categories)
    (few : categories.length < UInt32.size) :
    (categories.filter (·.domain = domain)).map (·.order.toNat)
      = List.range' 1 (categories.filter (·.domain = domain)).length :=
  map_toNat_order numbered (Nat.lt_of_le_of_lt (List.length_filter_le _ _) few)

end Category

namespace Store

variable {policy : Policy} {moment : Moment} {store after : Store} {kind : Kind}
  {op : Body kind}

/-- The categories of each domain are numbered. -/
def AllNumbered (store : Store) : Prop := ∀ domain, Category.Numbered domain store.categories

/-- Every operation leaves the categories of each domain numbered. -/
theorem AllNumbered.of_does (numbered : AllNumbered store)
    (does : Does policy moment store kind op after) : AllNumbered after := by
  cases does with
  | @addCategory op domain admin named new =>
      refine Category.Numbered.renumber_edited numbered fun other different => ?_
      rw [List.filter_append, List.filter_cons_of_neg (by simpa using different.symm),
        List.filter_nil, List.append_nil]
  | @removeCategory op domain category admin named found =>
      exact Category.Numbered.renumber_edited numbered fun other different =>
        Category.filter_eraseP_of_ne different op.label store.categories
  | @updateCategory op domain category admin named found =>
      refine Category.Numbered.renumber_edited numbered fun other different =>
        Category.filter_move_of_ne _ ?_ different _ op.label store.categories
      exact congrArg Prod.fst (name_of_category? found)
  | register | updateProfile | follow | unfollow | uploadMedia | addToBlacklist
  | removeFromBlacklist | setAccountTrusted | upsertDraft | removeDraft | markNotificationRead
  | markAllNotificationsRead | markAllNotificationsSeen | updateProfileSettings
  | registerPushToken | castDownvote | removeDownvote => exact numbered

theorem Reachable.allNumbered (reached : Reachable policy store) : AllNumbered store :=
  reached.invariant (fun _ => rfl) fun numbered does => numbered.of_does does

/--
**Each domain goes through its numbers without a gap.**

In every store that a blog comes to, every category is of one of the two domains, no other one
of its domain has its label, and what is listed of a domain is numbered from one in the order
of the list.
-/
theorem Reachable.categories_numbered (reached : Reachable policy store)
    (few : store.categories.length < UInt32.size) :
    (∀ category ∈ store.categories,
      category.domain.text = "com" ∨ category.domain.text = "me") ∧
    (store.categories.map fun category => (category.domain.text, category.label)).Nodup ∧
    ∀ domain : Domain, ∃ listed, store.categoriesOf domain.text = .ok listed ∧
      listed = store.categories.filter (·.domain = domain) ∧
      listed.map (·.order.toNat) = List.range' 1 listed.length := by
  refine ⟨fun category _ => ?_, ?_, fun domain => ?_⟩
  · cases category.domain with
    | com => exact .inl rfl
    | me => exact .inr rfl
  · have texts : (store.categories.map fun category => (category.domain.text, category.label))
        = (store.categories.map Category.name).map fun name => (name.1.text, name.2) := by
      rw [List.map_map]
      rfl
    rw [texts]
    refine List.Pairwise.map _ (fun name name' different same => different ?_)
      reached.namesDiffer
    obtain ⟨domain, label⟩ := Prod.mk.inj same
    refine Prod.ext ?_ label
    have read := congrArg Domain.ofText? domain
    rw [Domain.ofText?_text, Domain.ofText?_text] at read
    exact Option.some.inj read
  · refine ⟨_, ?_, rfl, (reached.allNumbered domain).map_toNat few⟩
    unfold categoriesOf
    rw [Domain.ofText?_text]
    rfl

/-- Four categories of one domain and two of the other, of which one has been moved to the
front and one removed. -/
private def movedAndRemoved : Store :=
  Store.empty
    |>.perform .default default .addCategoryAdmin
      (⟨"admin", "com", "news", "category_news"⟩ : AddCategoryAdmin)
    |>.perform .default default .addCategoryAdmin
      (⟨"admin", "me", "news", "category_news"⟩ : AddCategoryAdmin)
    |>.perform .default default .addCategoryAdmin
      (⟨"admin", "com", "art", "category_art"⟩ : AddCategoryAdmin)
    |>.perform .default default .addCategoryAdmin
      (⟨"admin", "me", "art", "category_art"⟩ : AddCategoryAdmin)
    |>.perform .default default .addCategoryAdmin
      (⟨"admin", "com", "sport", "category_sport"⟩ : AddCategoryAdmin)
    |>.perform .default default .updateCategoryAdmin
      (⟨"admin", "com", "sport", 1, "category_sport"⟩ : UpdateCategoryAdmin)
    |>.perform .default default .removeCategoryAdmin
      (⟨"admin", "com", "news"⟩ : RemoveCategoryAdmin)

private theorem reachable_movedAndRemoved : Reachable .default movedAndRemoved :=
  (((((((Reachable.empty.perform _ _ _).perform _ _ _).perform _ _ _).perform _ _ _).perform
    _ _ _).perform _ _ _).perform _ _ _)

/-- Sport is before art, which the numbers of both follow, and those of the other domain are
as they were. -/
theorem sport_numbered_first :
    Reachable .default movedAndRemoved ∧ movedAndRemoved.categories.length < UInt32.size ∧
    movedAndRemoved.categories.map
        (fun category => (category.domain, category.label, category.order.toNat))
      = [(.com, "sport", 1), (.me, "news", 1), (.com, "art", 2), (.me, "art", 2)] ∧
    ∃ listed, movedAndRemoved.categoriesOf "com" = .ok listed ∧
      listed.map (·.order.toNat) = List.range' 1 listed.length := by
  have few : movedAndRemoved.categories.length < UInt32.size := by decide +kernel
  obtain ⟨-, -, listings⟩ := Reachable.categories_numbered reachable_movedAndRemoved few
  obtain ⟨listed, hlisted, -, numbered⟩ := listings .com
  exact ⟨reachable_movedAndRemoved, few, by decide +kernel, listed, hlisted, numbered⟩

end Store

end BlogGateway.Blog
