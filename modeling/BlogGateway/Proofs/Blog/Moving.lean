/-
Categories that are moved.

To move a category is to take it out of the one list that both domains have, and to put it back
at the index of the category whose place it takes.  Whoever reads the categories of the domain
sees none of the others in between, so everything is said of that listing: it is the one before
without the category, with the category put in where it was wanted, or behind all when there is
no such place, and then numbered in the order in which it stands.
-/
import Mathlib.Data.List.InsertIdx
import Mathlib.Data.List.Nodup
import BlogGateway.Proofs.Blog.Numbering

namespace BlogGateway.Blog

open Operation

theorem Domain.text_of_ofText? {name : String} {domain : Domain}
    (named : Domain.ofText? name = some domain) : domain.text = name := by
  simpa using List.find?_some named

namespace Category

variable {domain : Domain} {label : String} {order : UInt32} {category : Category}
  {categories : List Category}

/-- What a category says besides its domain and its number. -/
def entry (category : Category) : String × String := (category.label, category.localizationKey)

/-- A listing after one of its categories has been moved, beside the listing before. -/
structure Moved (label key : String) (order : UInt32) (before after : List Category) : Prop where
  length : after.length = before.length
  /-- The category has its new key and the place that was asked for, or the last one. -/
  placed : after[min (max order.toNat 1) before.length - 1]?.map entry = some (label, key)
  /-- All others stand as they stood. -/
  others : (after.eraseIdx (min (max order.toNat 1) before.length - 1)).map entry
    = (before.filter (·.label ≠ label)).map entry
  numbered : after.map Category.order = (List.range' 1 before.length).map UInt32.ofNat

/-! ### One domain of an edited list -/

/-- Numbers are all that numbering changes. -/
theorem map_entry_filter_renumberAfter (domain : Domain) (count : Nat)
    (categories : List Category) :
    ((renumberAfter domain count categories).filter (·.domain = domain)).map entry
      = (categories.filter (·.domain = domain)).map entry := by
  induction categories generalizing count with
  | nil => rfl
  | cons category rest ih =>
      rw [filter_renumberAfter_cons]
      by_cases own : category.domain = domain
      · rw [if_pos own, List.filter_cons_of_pos (by simpa using own), List.map_cons, ih,
          List.map_cons]
        rfl
      · rw [if_neg own, List.filter_cons_of_neg (by simpa using own), ih]

/-- Among the categories of its domain a category is put in at its place, or at the end. -/
theorem filter_insertAt_self (category : Category) (position : Nat) (categories : List Category) :
    (insertAt category position categories).filter (·.domain = category.domain)
      = (categories.filter (·.domain = category.domain)).insertIdx
          (min position (categories.filter (·.domain = category.domain)).length) category := by
  induction categories generalizing position with
  | nil => simp [insertAt]
  | cons other rest ih =>
      rw [insertAt_cons]
      -- The position counts the categories of the domain, and so does the index in the listing.
      by_cases own : other.domain = category.domain
      · rw [if_pos own]
        cases position with
        | zero =>
            rw [Nat.zero_min, List.insertIdx_zero]
            exact List.filter_cons_of_pos (decide_eq_true rfl)
        | succ further =>
            rw [List.filter_cons_of_pos (by simpa using own),
              List.filter_cons_of_pos (by simpa using own), ih, List.length_cons,
              Nat.add_min_add_right, List.insertIdx_succ_cons]
      · rw [if_neg own, List.filter_cons_of_neg (by simpa using own),
          List.filter_cons_of_neg (by simpa using own), ih]

/-- When no two categories have one name, no other is left of the name that is taken out. -/
theorem eraseP_isNamed (differ : (categories.map name).Nodup) :
    categories.eraseP (isNamed domain label)
      = categories.filter fun category => !isNamed domain label category := by
  induction categories with
  | nil => rfl
  | cons category rest ih =>
      obtain ⟨new, differ⟩ := List.nodup_cons.mp differ
      by_cases named : isNamed domain label category = true
      · -- Only the first of the name is taken out, so it matters that there is no second.
        have others : ∀ other ∈ rest, (!isNamed domain label other) = true := by
          intro other hmem
          rw [Bool.not_eq_true', ← Bool.not_eq_true, isNamed_iff, ← isNamed_iff.mp named]
          exact fun same => new (same ▸ List.mem_map_of_mem hmem)
        rw [List.eraseP_cons_of_pos named, List.filter_cons_of_neg (by simp [named]),
          List.filter_eq_self.mpr others]
      · rw [List.eraseP_cons_of_neg named, List.filter_cons_of_pos (by simp [named]), ih differ]

/-- A category that is taken out is missing from its domain, and nothing else is. -/
theorem filter_eraseP_self (differ : (categories.map name).Nodup) :
    (categories.eraseP (isNamed domain label)).filter (·.domain = domain)
      = (categories.filter (·.domain = domain)).filter (·.label ≠ label) := by
  rw [eraseP_isNamed differ, List.filter_filter, List.filter_filter]
  refine List.filter_congr fun category _ => ?_
  by_cases own : category.domain = domain <;> simp [isNamed, own]

/-- The labels of a domain differ as the names do. -/
theorem nodup_map_label_filter (differ : (categories.map name).Nodup) (domain : Domain) :
    ((categories.filter (·.domain = domain)).map Category.label).Nodup := by
  have names : ((categories.filter (·.domain = domain)).map name).Nodup :=
    differ.sublist (List.filter_sublist.map name)
  have labels : (categories.filter (·.domain = domain)).map Category.label
      = ((categories.filter (·.domain = domain)).map name).map Prod.snd := by
    rw [List.map_map]
    rfl
  rw [labels]
  refine List.Nodup.map_on (fun first hfirst second hsecond same => Prod.ext ?_ same) names
  obtain ⟨category, hmem, rfl⟩ := List.mem_map.mp hfirst
  obtain ⟨other, hother, rfl⟩ := List.mem_map.mp hsecond
  have own : category.domain = domain := by simpa using (List.mem_filter.mp hmem).2
  have owned : other.domain = domain := by simpa using (List.mem_filter.mp hother).2
  exact own.trans owned.symm

/-- Without the category of a label there is one less. -/
theorem length_filter_label_ne {listing : List Category}
    (differ : (listing.map Category.label).Nodup) (there : label ∈ listing.map Category.label) :
    (listing.filter (·.label ≠ label)).length + 1 = listing.length := by
  have left : (listing.filter (·.label ≠ label)).map Category.label
      = (listing.map Category.label).erase label := by
    rw [differ.erase_eq_filter, List.filter_map]
    congr 1
    refine List.filter_congr fun category _ => ?_
    rw [Bool.eq_iff_iff]
    simp
  have fewer := List.length_erase_of_mem there
  rw [← left, List.length_map, List.length_map] at fewer
  have filled : 0 < listing.length := by
    rw [← List.length_map Category.label]
    exact List.length_pos_of_mem there
  omega

/-- A listing comes out of another one by a move when it has the category put in among the
others, and has its own numbers. -/
theorem Moved.of_insertIdx {before others after : List Category}
    (differ : (before.map Category.label).Nodup)
    (there : category.label ∈ before.map Category.label)
    (without : others = before.filter (·.label ≠ category.label))
    (entries : after.map entry
      = (others.insertIdx (min (order.toNat - 1) others.length) category).map entry)
    (numbers : after.map Category.order = (List.range' 1 after.length).map UInt32.ofNat) :
    Moved category.label category.localizationKey order before after := by
  have fewer : others.length + 1 = before.length := by
    rw [without, length_filter_label_ne differ there]
  have place : min (max order.toNat 1) before.length - 1
      = min (order.toNat - 1) others.length := by
    omega
  have within : min (order.toNat - 1) others.length ≤ others.length := Nat.min_le_right _ _
  have length : after.length = before.length := by
    rw [← List.length_map entry, entries, List.length_map,
      List.length_insertIdx_of_le_length within, fewer]
  refine ⟨length, ?_, ?_, ?_⟩
  · rw [place, ← List.getElem?_map, entries, List.getElem?_map, List.getElem?_insertIdx_self,
      if_pos within]
    rfl
  · rw [place, ← List.eraseIdx_map, entries, List.eraseIdx_map, List.eraseIdx_insertIdx_self,
      without]
  · rw [numbers, length]

/-- In one list with the other domain, a category is moved within its own. -/
theorem moved_filter_renumber (order : UInt32) (category : Category)
    (differ : (categories.map name).Nodup)
    (there : category.label
      ∈ (categories.filter (·.domain = category.domain)).map Category.label) :
    Moved category.label category.localizationKey order
      (categories.filter (·.domain = category.domain))
      ((renumber category.domain (insertAt category (order.toNat - 1)
          (categories.eraseP (isNamed category.domain category.label)))).filter
        (·.domain = category.domain)) := by
  refine .of_insertIdx (nodup_map_label_filter differ category.domain) there
    (filter_eraseP_self differ) ?_ (numbered_renumber _ _)
  rw [renumber, map_entry_filter_renumberAfter, filter_insertAt_self]

end Category

namespace Store

variable {policy : Policy} {store : Store}

theorem categoriesOf_eq_ok_iff {name : String} {listed : List Category} :
    store.categoriesOf name = .ok listed ↔
      ∃ domain, Domain.ofText? name = some domain ∧ store.categoriesIn domain = listed := by
  unfold categoriesOf
  cases Domain.ofText? name <;> simp

/-- Who leaves the other domains alone leaves their listings as they are. -/
theorem categoriesOf_of_ne {after : Store} {name other : String} {domain : Domain}
    (named : Domain.ofText? name = some domain) (different : other ≠ name)
    (spared : ∀ elsewhere, elsewhere ≠ domain →
      after.categoriesIn elsewhere = store.categoriesIn elsewhere) :
    after.categoriesOf other = store.categoriesOf other := by
  unfold categoriesOf
  cases said : Domain.ofText? other with
  | none => rfl
  | some elsewhere =>
      refine congrArg Except.ok (spared elsewhere ?_)
      rintro rfl
      exact different ((Domain.text_of_ofText? said).symm.trans (Domain.text_of_ofText? named))

/-- A category that is listed is there to be found. -/
theorem category?_of_mem_categoriesIn {domain : Domain} {label : String}
    (there : label ∈ (store.categoriesIn domain).map Category.label) :
    ∃ category, store.category? domain label = some category := by
  obtain ⟨category, hmem, rfl⟩ := List.mem_map.mp there
  obtain ⟨hmem, own⟩ := List.mem_filter.mp hmem
  refine Option.ne_none_iff_exists'.mp fun absent => category?_eq_none_iff.mp absent ?_
  rw [show (domain, category.label) = category.name from
    Prod.ext (of_decide_eq_true own).symm rfl]
  exact List.mem_map_of_mem hmem

/--
**A category that is moved is where it was wanted, and all others are as they were.**

In every store that a blog comes to, the administrator can move any category that is listed.
Of the `n` categories of its domain it then is the one with the number that was asked for,
which is taken as one when it is less, and as `n` when it is more.  It has the new key, the
others follow each other as before, and the domain is numbered from one to `n`.  The other
domain is listed as it was.
-/
theorem Reachable.category_moved (reached : Reachable policy store) (moment : Moment)
    (op : UpdateCategoryAdmin) (admin : op.account = policy.adminAccount)
    {before : List Category} (listed : store.categoriesOf op.domain = .ok before)
    (there : op.label ∈ before.map Category.label) :
    (InPlace.apply policy moment .updateCategoryAdmin op store).result = .ok () ∧
    (∃ after, (store.perform policy moment .updateCategoryAdmin op).categoriesOf op.domain
        = .ok after ∧
      Category.Moved op.label op.localizationKey op.order before after ∧
      (before.length < UInt32.size →
        after.map (·.order.toNat) = List.range' 1 before.length)) ∧
    ∀ other, other ≠ op.domain →
      (store.perform policy moment .updateCategoryAdmin op).categoriesOf other
        = store.categoriesOf other := by
  obtain ⟨account, name, label, order, key⟩ := op
  obtain ⟨domain, named, rfl⟩ := categoriesOf_eq_ok_iff.mp listed
  obtain ⟨category, found⟩ := category?_of_mem_categoriesIn there
  obtain ⟨rfl, rfl⟩ := Prod.mk.inj (name_of_category? found)
  have applied : apply policy moment .updateCategoryAdmin _ store = .ok _ :=
    apply_of_does (.updateCategory _ admin named found)
  rw [perform_of_ok applied]
  have moved := Category.moved_filter_renumber order { category with localizationKey := key }
    reached.namesDiffer there
  refine ⟨result_of_ok applied,
    ⟨_, categoriesOf_eq_ok_iff.mpr ⟨_, named, rfl⟩, moved,
      Category.map_toNat_order moved.numbered⟩, ?_⟩
  intro other different
  refine categoriesOf_of_ne named different fun elsewhere apart => ?_
  refine (Category.filter_renumberAfter_of_ne apart 0 _).trans
    (Category.filter_move_of_ne _ ?_ apart _ _ _)
  rfl

/-- Three categories of one domain with two of the other in between. -/
private def interleaved : Store :=
  Store.empty
    |>.perform .default default .addCategoryAdmin
      (⟨"admin", "com", "news", "category_news"⟩ : AddCategoryAdmin)
    |>.perform .default default .addCategoryAdmin
      (⟨"admin", "me", "news", "category_news"⟩ : AddCategoryAdmin)
    |>.perform .default default .addCategoryAdmin
      (⟨"admin", "com", "art", "category_art"⟩ : AddCategoryAdmin)
    |>.perform .default default .addCategoryAdmin
      (⟨"admin", "me", "art", "category_art"⟩ : AddCategoryAdmin)
    |>.perform .default default .addCategoryAdmin
      (⟨"admin", "com", "sport", "category_sport"⟩ : AddCategoryAdmin)

private theorem reachable_interleaved : Reachable .default interleaved :=
  ((((Reachable.empty.perform _ _ _).perform _ _ _).perform _ _ _).perform _ _ _).perform _ _ _

/-- The first is moved behind all by the largest number there is. -/
private def toTheEnd : UpdateCategoryAdmin :=
  ⟨"admin", "com", "news", 4294967295, "category_all"⟩

/-- News is the last of three, behind art and sport, and its namesake is where it was. -/
theorem news_moved_to_the_end :
    Reachable .default interleaved ∧ toTheEnd.account = Policy.default.adminAccount ∧
    toTheEnd.label ∈ (interleaved.categoriesIn .com).map Category.label ∧
    interleaved.categoriesOf toTheEnd.domain = .ok (interleaved.categoriesIn .com) ∧
    (∃ after, (interleaved.perform .default default .updateCategoryAdmin toTheEnd).categoriesOf
        "com" = .ok after ∧
      after[2]?.map Category.entry = some ("news", "category_all") ∧
      (after.eraseIdx 2).map Category.entry
        = [("art", "category_art"), ("sport", "category_sport")] ∧
      after.map (·.order.toNat) = [1, 2, 3]) ∧
    (interleaved.perform .default default .updateCategoryAdmin toTheEnd).categoriesOf "me"
      = interleaved.categoriesOf "me" := by
  have there : toTheEnd.label ∈ (interleaved.categoriesIn .com).map Category.label := by
    decide +kernel
  have three : (interleaved.categoriesIn .com).length = 3 := by decide +kernel
  have place :
      min (max toTheEnd.order.toNat 1) (interleaved.categoriesIn .com).length - 1 = 2 := by
    rw [three]
    rfl
  obtain ⟨-, ⟨after, listed, moved, counted⟩, others⟩ :=
    Reachable.category_moved reachable_interleaved default toTheEnd rfl rfl there
  refine ⟨reachable_interleaved, rfl, there, rfl, ⟨after, listed, ?_, ?_, ?_⟩,
    others "me" (by decide)⟩
  · rw [← place]
    exact moved.placed
  · rw [← place, moved.others]
    decide +kernel
  · rw [counted (by rw [three]; decide), three]
    rfl

end Store

end BlogGateway.Blog
