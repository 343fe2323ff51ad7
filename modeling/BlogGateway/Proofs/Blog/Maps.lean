/-
What a map gives for a name.

The blog keeps what is named in extensional maps, which are the same when they give the same
for every name.  So what is written to them is judged by looking names up, and here stands
what such a look finds behind each kind of writing; the rows that a map lists are those that
it gives for some name.
-/
import Std.Data.ExtTreeMap
import Std.Data.ExtTreeSet

namespace BlogGateway.Blog

open Std

variable {α β : Type} {cmp : α → α → Ordering} [TransCmp cmp] {m m' : ExtTreeMap α β cmp}
  {s : ExtTreeSet α cmp} {name key : α} {row row' : β}

/-! ### What is found behind writing -/

/-- What is found is what was written, or was there before. -/
theorem of_getElem?_insert [LawfulEqCmp cmp] (found : (m.insert key row)[name]? = some row') :
    key = name ∧ row = row' ∨ m[name]? = some row' := by
  rw [ExtTreeMap.getElem?_insert] at found
  split at found
  · rename_i same
    exact .inl ⟨LawfulEqCmp.eq_of_compare same, Option.some.inj found⟩
  · exact .inr found

theorem of_getElem?_insertIfNew [LawfulEqCmp cmp]
    (found : (m.insertIfNew key row)[name]? = some row') :
    key = name ∧ row = row' ∨ m[name]? = some row' := by
  rw [ExtTreeMap.getElem?_insertIfNew] at found
  split at found
  · rename_i same
    exact .inl ⟨LawfulEqCmp.eq_of_compare same.1, Option.some.inj found⟩
  · exact .inr found

/-- What is written under a new name leaves what was there before. -/
theorem getElem?_insert_of_new [LawfulEqCmp cmp] (new : key ∉ m) (kept : m[name]? = some row') :
    (m.insert key row)[name]? = some row' := by
  have other : ¬ cmp key name = .eq := by
    intro same
    obtain rfl := LawfulEqCmp.eq_of_compare same
    rw [ExtTreeMap.getElem?_eq_none new] at kept
    cases kept
  rw [ExtTreeMap.getElem?_insert, if_neg other, kept]

/-! ### Writing again, and removing what is not there -/

theorem insert_insert [LawfulEqCmp cmp] :
    (m.insert key row).insert key row' = m.insert key row' := by
  refine ExtTreeMap.ext_getElem? fun name => ?_
  rw [ExtTreeMap.getElem?_insert, ExtTreeMap.getElem?_insert, ExtTreeMap.getElem?_insert]
  split <;> rfl

theorem insertIfNew_of_mem [LawfulEqCmp cmp] (known : key ∈ m) : m.insertIfNew key row = m := by
  refine ExtTreeMap.ext_getElem? fun name => ?_
  rw [ExtTreeMap.getElem?_insertIfNew, if_neg fun new => new.2 known]

theorem modify_insert [LawfulEqCmp cmp] {change : β → β} :
    (m.insert key row).modify key change = m.insert key (change row) := by
  refine ExtTreeMap.ext_getElem? fun name => ?_
  rw [ExtTreeMap.getElem?_modify, ExtTreeMap.getElem?_insert_self, ExtTreeMap.getElem?_insert,
    ExtTreeMap.getElem?_insert]
  split <;> rfl

theorem insert_insert_set [LawfulEqCmp cmp] : (s.insert key).insert key = s.insert key := by
  refine ExtTreeSet.ext_mem fun name => ?_
  rw [ExtTreeSet.mem_insert, ExtTreeSet.mem_insert, ← or_assoc, or_self]

theorem notMem_erase_self : key ∉ m.erase key := fun hmem =>
  (ExtTreeMap.mem_erase.mp hmem).1 ReflCmp.compare_self

theorem notMem_erase_self_set : key ∉ s.erase key := fun hmem =>
  (ExtTreeSet.mem_erase.mp hmem).1 ReflCmp.compare_self

theorem erase_of_notMem [LawfulEqCmp cmp] (absent : key ∉ m) : m.erase key = m := by
  refine ExtTreeMap.ext_getElem? fun name => ?_
  rw [ExtTreeMap.getElem?_erase]
  split
  · rename_i is
    rw [← LawfulEqCmp.eq_of_compare is, ExtTreeMap.getElem?_eq_none absent]
  · rfl

theorem erase_of_notMem_set [LawfulEqCmp cmp] (absent : key ∉ s) : s.erase key = s := by
  refine ExtTreeSet.ext_mem fun name => ?_
  rw [ExtTreeSet.mem_erase]
  constructor
  · exact And.right
  · intro hmem
    refine ⟨fun is => absent ?_, hmem⟩
    rw [LawfulEqCmp.eq_of_compare is]
    exact hmem

/-! ### Maps that agree on a name -/

theorem getElem?_insert_congr (same : m[name]? = m'[name]?) (key : α) (row : β) :
    (m.insert key row)[name]? = (m'.insert key row)[name]? := by
  rw [ExtTreeMap.getElem?_insert, ExtTreeMap.getElem?_insert, same]

theorem getElem?_insertIfNew_congr (same : m[name]? = m'[name]?) (key : α) (row : β) :
    (m.insertIfNew key row)[name]? = (m'.insertIfNew key row)[name]? := by
  have known (is : cmp key name = .eq) : key ∈ m ↔ key ∈ m' := by
    rw [ExtTreeMap.mem_congr is, ExtTreeMap.mem_congr is, ExtTreeMap.mem_iff_isSome_getElem?,
      ExtTreeMap.mem_iff_isSome_getElem?, same]
  have new : cmp key name = .eq ∧ ¬ key ∈ m ↔ cmp key name = .eq ∧ ¬ key ∈ m' :=
    and_congr_right fun is => not_congr (known is)
  rw [ExtTreeMap.getElem?_insertIfNew, ExtTreeMap.getElem?_insertIfNew, same]
  simp only [new]

/-! ### The rows that a map lists -/

/-- The rows of a map are those of its pairs. -/
theorem values_eq_map_toList (m : ExtTreeMap α β cmp) : m.values = m.toList.map Prod.snd := by
  obtain ⟨⟨q⟩⟩ := m
  induction q using Quotient.ind with
  | _ m =>
      show m.values = (DTreeMap.Const.toList m).map Prod.snd
      obtain ⟨tree, hwf⟩ := m
      show tree.values = (DTreeMap.Internal.Impl.Const.toList tree).map Prod.snd
      rw [DTreeMap.Internal.Impl.values_eq_map_snd,
        DTreeMap.Internal.Impl.Const.toList_eq_toListModel_map]
      simp

theorem mem_values_iff [LawfulEqCmp cmp] : row ∈ m.values ↔ ∃ name : α, m[name]? = some row := by
  rw [values_eq_map_toList, List.mem_map]
  constructor
  · rintro ⟨⟨name, _⟩, hmem, rfl⟩
    exact ⟨name, ExtTreeMap.mem_toList_iff_getElem?_eq_some.mp hmem⟩
  · rintro ⟨name, found⟩
    exact ⟨(name, row), ExtTreeMap.mem_toList_iff_getElem?_eq_some.mpr found, rfl⟩

/-- Maps whose rows of a sort agree list the same rows of that sort. -/
theorem filter_values_congr [LawfulEqCmp cmp] {wanted : β → Bool}
    (same : ∀ key : α, (m[key]?).filter wanted = (m'[key]?).filter wanted) :
    m.values.filter wanted = m'.values.filter wanted := by
  have picked : (m.filter fun _ row => wanted row) = m'.filter fun _ row => wanted row := by
    refine ExtTreeMap.ext_getElem? fun key => ?_
    rw [ExtTreeMap.getElem?_filter', ExtTreeMap.getElem?_filter']
    exact same key
  have listed (m : ExtTreeMap α β cmp) :
      m.values.filter wanted = (m.filter fun _ row => wanted row).toList.map Prod.snd := by
    rw [values_eq_map_toList, List.filter_map, ExtTreeMap.toList_filter]
    rfl
  rw [listed m, listed m', picked]

/-- Rows are listed in the order of their names, and none is listed twice. -/
theorem pairwise_values [LawfulEqCmp cmp] {R : β → β → Prop}
    (ordered : ∀ (name name' : α) (row row' : β), m[name]? = some row → m[name']? = some row' →
      cmp name name' = .lt → R row row') : m.values.Pairwise R := by
  rw [values_eq_map_toList, List.pairwise_map]
  refine ExtTreeMap.ordered_keys_toList.imp_of_mem fun {pair pair'} hmem hmem' less => ?_
  have found : m[pair.1]? = some pair.2 := ExtTreeMap.mem_toList_iff_getElem?_eq_some.mp hmem
  have found' : m[pair'.1]? = some pair'.2 := ExtTreeMap.mem_toList_iff_getElem?_eq_some.mp hmem'
  exact ordered pair.1 pair'.1 pair.2 pair'.2 found found' less

/-- However rows are enumerated, sorting brings them into the one order in which no two of them
are alike. -/
theorem mergeSort_eq_of_perm {before : β → β → Bool} {rows listing : List β}
    (arranged : rows.Perm listing) (trans : ∀ a b c, before a b → before b c → before a c)
    (total : ∀ a b, before a b || before b a) (ordered : listing.Pairwise (before · ·))
    (differ : ∀ a ∈ listing, ∀ b ∈ listing, before a b → before b a → a = b) :
    rows.mergeSort before = listing := by
  have same : (rows.mergeSort before).Perm listing :=
    (List.mergeSort_perm rows before).trans arranged
  refine same.eq_of_pairwise (fun a b hmem hmem' => ?_)
    (List.pairwise_mergeSort trans total rows) ordered
  exact differ a (same.mem_iff.mp hmem) b hmem'

end BlogGateway.Blog
