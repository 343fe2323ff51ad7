/-
Categories and their names.

A category is named by its label within its domain.  To number a domain again changes no
name, and to put a category at a place adds one name; so the names of categories stay
different from each other, and a category that is taken out is the only one of its name.

The numbers are never looked at.  What a domain is numbered to depends on the order of its
categories alone, so it does not matter how they were numbered before.
-/
import BlogGateway.Proofs.Blog.Reach

namespace BlogGateway.Blog

open Operation

namespace Category

variable {domain : Domain} {label : String} {category : Category} {categories : List Category}

/-! ### Names -/

/-- What a category is called. -/
def name (category : Category) : Domain × String := (category.domain, category.label)

theorem isNamed_iff : isNamed domain label category = true ↔ category.name = (domain, label) := by
  simp [isNamed, name]

theorem map_name_renumberAfter (domain : Domain) (count : Nat) (categories : List Category) :
    (renumberAfter domain count categories).map name = categories.map name := by
  induction categories generalizing count with
  | nil => rfl
  | cons category rest ih =>
      rw [renumberAfter]
      split
      · rw [List.map_cons, List.map_cons, ih]
        rfl
      · rw [List.map_cons, List.map_cons, ih]

theorem map_name_renumber (domain : Domain) (categories : List Category) :
    (renumber domain categories).map name = categories.map name :=
  map_name_renumberAfter domain 0 categories

/-- Whoever takes out a category takes out its name. -/
theorem map_name_eraseP (domain : Domain) (label : String) (categories : List Category) :
    (categories.eraseP (isNamed domain label)).map name
      = (categories.map name).erase (domain, label) := by
  have named : isNamed domain label = (fun called => (domain, label) == called) ∘ name := by
    funext category
    rw [Bool.eq_iff_iff, isNamed_iff, Function.comp_apply, beq_iff_eq]
    exact eq_comm
  rw [List.erase_eq_eraseP, List.eraseP_map, named]

/-! ### Places -/

theorem insertAt_cons (category : Category) (position : Nat) (other : Category)
    (rest : List Category) :
    insertAt category position (other :: rest)
      = if other.domain = category.domain then
          match position with
          | 0 => category :: other :: rest
          | further + 1 => other :: insertAt category further rest
        else other :: insertAt category position rest := by
  cases position <;> rfl

/-- A category is put before another one or somewhere behind it. -/
theorem insertAt_cons_cases (category : Category) (position : Nat) (other : Category)
    (rest : List Category) :
    insertAt category position (other :: rest) = category :: other :: rest ∨
      ∃ further, insertAt category position (other :: rest)
        = other :: insertAt category further rest := by
  rw [insertAt_cons]
  split
  · cases position with
    | zero => exact .inl rfl
    | succ further => exact .inr ⟨further, rfl⟩
  · exact .inr ⟨position, rfl⟩

theorem insertAt_perm (category : Category) (position : Nat) (categories : List Category) :
    (insertAt category position categories).Perm (category :: categories) := by
  induction categories generalizing position with
  | nil => exact .refl _
  | cons other rest ih =>
      rcases insertAt_cons_cases category position other rest with here | ⟨further, there⟩
      · rw [here]
      · rw [there]
        exact ((ih further).cons other).trans (.swap category other rest)

/-- A category that was put at a place is found there again when no other has its name. -/
theorem eraseP_insertAt {wanted : Category → Bool} (is : wanted category = true)
    (others : ∀ other ∈ categories, wanted other = false) (position : Nat) :
    (insertAt category position categories).eraseP wanted = categories := by
  induction categories generalizing position with
  | nil => exact List.eraseP_cons_of_pos is
  | cons other rest ih =>
      obtain ⟨first, others⟩ := List.forall_mem_cons.mp others
      rcases insertAt_cons_cases category position other rest with here | ⟨further, there⟩
      · rw [here, List.eraseP_cons_of_pos is]
      · rw [there, List.eraseP_cons_of_neg (by simp [first]), ih others]

/-- Places are counted by domain only. -/
theorem map_insertAt {change : Category → Category}
    (keeps : ∀ category, (change category).domain = category.domain) (category : Category)
    (position : Nat) (categories : List Category) :
    (insertAt category position categories).map change
      = insertAt (change category) position (categories.map change) := by
  induction categories generalizing position with
  | nil => cases position <;> rfl
  | cons other rest ih =>
      rw [List.map_cons, insertAt_cons, insertAt_cons, keeps, keeps]
      split
      · cases position with
        | zero => rfl
        | succ position => exact congrArg _ (ih position)
      · exact congrArg _ (ih position)

/-! ### Numbers -/

/-- A category of the domain without its number, and any other as it is. -/
def unnumbered (domain : Domain) (category : Category) : Category :=
  if category.domain = domain then { category with order := 0 } else category

theorem domain_unnumbered (domain : Domain) (category : Category) :
    (unnumbered domain category).domain = category.domain := by
  unfold unnumbered
  split <;> rfl

theorem isNamed_unnumbered (domain domain' : Domain) (label : String) (category : Category) :
    isNamed domain' label (unnumbered domain category) = isNamed domain' label category := by
  unfold unnumbered
  split <;> rfl

/-- Without their numbers, categories of a domain differ in name or key only. -/
theorem unnumbered_congr {first second : Category} (own : first.domain = domain)
    (named : second.name = first.name)
    (localizationKey : second.localizationKey = first.localizationKey) :
    unnumbered domain second = unnumbered domain first := by
  obtain ⟨_, _, _, _⟩ := first
  obtain ⟨_, _, _, _⟩ := second
  cases named
  cases localizationKey
  cases own
  rw [unnumbered, unnumbered, if_pos rfl, if_pos rfl]

theorem map_unnumbered_renumberAfter (domain : Domain) (count : Nat)
    (categories : List Category) :
    (renumberAfter domain count categories).map (unnumbered domain)
      = categories.map (unnumbered domain) := by
  induction categories generalizing count with
  | nil => rfl
  | cons category rest ih =>
      rw [renumberAfter]
      split
      · rename_i own
        rw [List.map_cons, List.map_cons, ih]
        simp only [unnumbered, own, if_true]
      · rw [List.map_cons, List.map_cons, ih]

theorem renumberAfter_map_unnumbered (domain : Domain) (count : Nat)
    (categories : List Category) :
    renumberAfter domain count (categories.map (unnumbered domain))
      = renumberAfter domain count categories := by
  induction categories generalizing count with
  | nil => rfl
  | cons category rest ih =>
      rw [List.map_cons, renumberAfter, renumberAfter, domain_unnumbered, ih, ih]
      by_cases own : category.domain = domain
      · simp only [unnumbered, own, if_true]
      · simp only [unnumbered, own, if_false]

/-- How a domain was numbered before does not matter. -/
theorem renumber_congr {others : List Category}
    (same : categories.map (unnumbered domain) = others.map (unnumbered domain)) :
    renumber domain categories = renumber domain others := by
  unfold renumber
  rw [← renumberAfter_map_unnumbered, same, renumberAfter_map_unnumbered]

theorem map_unnumbered_eraseP (domain : Domain) (label : String) (categories : List Category) :
    (categories.eraseP (isNamed domain label)).map (unnumbered domain)
      = (categories.map (unnumbered domain)).eraseP (isNamed domain label) := by
  have named : isNamed domain label ∘ unnumbered domain = isNamed domain label := by
    funext category
    exact isNamed_unnumbered domain domain label category
  rw [List.eraseP_map, named]

/-! ### Names that differ -/

/-- Taken out, a category leaves no other of its name. -/
theorem isNamed_of_mem_eraseP (distinct : (categories.map name).Nodup) {other : Category}
    (hmem : other ∈ categories.eraseP (isNamed domain label)) :
    isNamed domain label other = false := by
  rw [← Bool.not_eq_true, isNamed_iff]
  intro named
  have left : (domain, label) ∈ (categories.map name).erase (domain, label) := by
    rw [← map_name_eraseP, ← named]
    exact List.mem_map_of_mem hmem
  exact distinct.not_mem_erase left

/-- To move a category to the place where it was moved is to leave it there: it is the one of
its name that is taken out, and it is put back among the same others. -/
theorem move_again (distinct : (categories.map name).Nodup) {again : Category} {key : String}
    (named : category.name = (domain, label)) (position : Nat)
    (moved : List Category)
    (hmoved : moved = renumber domain (insertAt { category with localizationKey := key } position
      (categories.eraseP (isNamed domain label))))
    (found : moved.find? (isNamed domain label) = some again) :
    renumber domain (insertAt { again with localizationKey := key } position
      (moved.eraseP (isNamed domain label))) = moved := by
  have again_named := isNamed_iff.mp (List.find?_some found)
  obtain ⟨rfl, rfl⟩ := Prod.mk.inj named
  have same : unnumbered category.domain { again with localizationKey := key }
      = unnumbered category.domain { category with localizationKey := key } :=
    unnumbered_congr rfl again_named rfl
  have others : (moved.eraseP (isNamed category.domain category.label)).map
        (unnumbered category.domain)
      = (categories.eraseP (isNamed category.domain category.label)).map
        (unnumbered category.domain) := by
    rw [map_unnumbered_eraseP, hmoved, renumber, map_unnumbered_renumberAfter,
      ← map_unnumbered_eraseP, eraseP_insertAt]
    · exact isNamed_iff.mpr rfl
    · exact fun other hmem => isNamed_of_mem_eraseP distinct hmem
  refine (renumber_congr ?_).trans hmoved.symm
  rw [map_insertAt (domain_unnumbered _), map_insertAt (domain_unnumbered _), same, others]

end Category

namespace Store

variable {policy : Policy} {moment : Moment} {store after : Store} {kind : Kind}
  {op : Body kind} {domain : Domain} {label : String} {category : Category}

/-- No two categories have the same name. -/
def NamesDiffer (store : Store) : Prop := (store.categories.map Category.name).Nodup

theorem name_of_category? (found : store.category? domain label = some category) :
    category.name = (domain, label) :=
  Category.isNamed_iff.mp (List.find?_some found)

theorem mem_names_of_category? (found : store.category? domain label = some category) :
    (domain, label) ∈ store.categories.map Category.name := by
  rw [← name_of_category? found]
  exact List.mem_map_of_mem (List.mem_of_find?_eq_some found)

theorem category?_eq_none_iff :
    store.category? domain label = none ↔
      (domain, label) ∉ store.categories.map Category.name := by
  simp only [category?, List.find?_eq_none, Category.isNamed_iff, List.mem_map, not_exists,
    not_and]

/-- Every operation keeps the names of categories different. -/
theorem NamesDiffer.of_does (differ : NamesDiffer store)
    (does : Does policy moment store kind op after) : NamesDiffer after := by
  cases does with
  | @addCategory op domain admin named new =>
      have absent := category?_eq_none_iff.mp new
      unfold NamesDiffer
      rw [Category.map_name_renumber, List.map_append, List.nodup_append]
      refine ⟨differ, by simp, ?_⟩
      rintro _ hmem _ hlast rfl
      rw [List.mem_singleton.mp hlast] at hmem
      exact absent hmem
  | @removeCategory op domain category admin named found =>
      unfold NamesDiffer
      rw [Category.map_name_renumber, Category.map_name_eraseP]
      exact differ.erase _
  | @updateCategory op domain category admin named found =>
      unfold NamesDiffer
      rw [Category.map_name_renumber,
        ((Category.insertAt_perm _ _ _).map Category.name).nodup_iff, List.map_cons,
        Category.map_name_eraseP, List.nodup_cons]
      refine ⟨?_, differ.erase _⟩
      show category.name ∉ _
      rw [name_of_category? found]
      exact differ.not_mem_erase
  | register | updateProfile | follow | unfollow | uploadMedia | addToBlacklist
  | removeFromBlacklist | setAccountTrusted | upsertDraft | removeDraft | markNotificationRead
  | markAllNotificationsRead | markAllNotificationsSeen | updateProfileSettings
  | registerPushToken | castDownvote | removeDownvote => exact differ

theorem namesDiffer_empty : NamesDiffer .empty := List.nodup_nil

/-- The names of categories differ in every store that a blog comes to. -/
theorem Reachable.namesDiffer (reached : Reachable policy store) : NamesDiffer store :=
  reached.invariant namesDiffer_empty fun differ does => differ.of_does does

end Store

end BlogGateway.Blog
