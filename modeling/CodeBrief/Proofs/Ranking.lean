/-
**Sorting puts a list in order and keeps ties.**

* `sortBy_pairwise` — of a sorted list, every element may stand before the later ones.
* `eq_sortBy_of_perm` — a list in order without ties is the sorted one.
* `filter_sortBy` — elements that may stand before each other both ways keep their order.
* `IsRanking` — what it means for a list to be another one from the highest rank down, ties in their
  order; `isRanking_sortBy` says that sorting does that, `IsRanking.pair_sublist` what it means for
  two items, and `IsRanking.lower_or_later` what it means for those that are cut off.
-/

import CodeBrief.Order
import Mathlib.Data.List.Perm.Basic
import Mathlib.Data.String.Basic

namespace CodeBrief

theorem textLe_iff {left right : String} : textLe left right = true ↔ left ≤ right := by
  unfold textLe
  rw [Bool.not_eq_true', decide_eq_false_iff_not, not_lt]

section Sorting

variable {α : Type} {before : α → α → Bool}

theorem mem_insertBy {x y : α} {ys : List α} : y ∈ insertBy before x ys ↔ y = x ∨ y ∈ ys := by
  rw [(insertBy_perm before x ys).mem_iff, List.mem_cons]

/-- Inserting keeps a list sorted. -/
theorem insertBy_pairwise (total : ∀ x y, before x y = true ∨ before y x = true)
    (trans : ∀ x y z, before x y = true → before y z = true → before x z = true) (x : α)
    {ys : List α} (sorted : ys.Pairwise fun a b => before a b = true) :
    (insertBy before x ys).Pairwise fun a b => before a b = true := by
  induction ys with
  | nil => exact List.pairwise_singleton _ x
  | cons y rest ih =>
    obtain ⟨first, sortedRest⟩ := List.pairwise_cons.mp sorted
    unfold insertBy
    split
    · rename_i now
      refine List.pairwise_cons.mpr ⟨fun z member => ?_, sorted⟩
      rcases List.mem_cons.mp member with rfl | member
      · exact now
      · exact trans x y z now (first z member)
    · rename_i later
      refine List.pairwise_cons.mpr ⟨fun z member => ?_, ih sortedRest⟩
      rcases mem_insertBy.mp member with rfl | member
      · exact (total z y).resolve_left later
      · exact first z member

/-- **A sorted list is in order.** -/
theorem sortBy_pairwise (total : ∀ x y, before x y = true ∨ before y x = true)
    (trans : ∀ x y z, before x y = true → before y z = true → before x z = true) (xs : List α) :
    (sortBy before xs).Pairwise fun a b => before a b = true := by
  induction xs with
  | nil => exact .nil
  | cons x rest ih => exact insertBy_pairwise total trans x ih

/-- A list in order without ties is what sorting its elements gives. -/
theorem eq_sortBy_of_perm (total : ∀ x y, before x y = true ∨ before y x = true)
    (trans : ∀ x y z, before x y = true → before y z = true → before x z = true) {xs ys : List α}
    (ties : ∀ x ∈ ys, ∀ y ∈ ys, before x y = true → before y x = true → x = y)
    (sorted : ys.Pairwise fun a b => before a b = true) (perm : ys.Perm xs) :
    ys = sortBy before xs := by
  have same : ys.Perm (sortBy before xs) := perm.trans (sortBy_perm before xs).symm
  refine List.Perm.eq_of_pairwise (fun x y left right => ?_) sorted
    (sortBy_pairwise total trans xs) same
  exact ties x left y (same.mem_iff.mpr right)

/-- A list in order stays as it is. -/
theorem sortBy_eq_self {xs : List α} (sorted : xs.Pairwise fun a b => before a b = true) :
    sortBy before xs = xs := by
  induction xs with
  | nil => rfl
  | cons x rest ih =>
    obtain ⟨first, sortedRest⟩ := List.pairwise_cons.mp sorted
    unfold sortBy
    rw [ih sortedRest]
    cases rest with
    | nil => rfl
    | cons y rest => exact if_pos (first y List.mem_cons_self)

/-- An element is inserted in front of those that tie with it. -/
theorem filter_insertBy (keep : α → Bool)
    (ties : ∀ x y, keep x = true → keep y = true → before x y = true) (x : α) (ys : List α) :
    (insertBy before x ys).filter keep = (x :: ys).filter keep := by
  induction ys with
  | nil => rfl
  | cons y rest ih =>
    unfold insertBy
    split
    · rfl
    · rename_i later
      rw [List.filter_cons, ih]
      by_cases keepX : keep x = true
      · have dropY : ¬ keep y = true := fun keepY => later (ties x y keepX keepY)
        simp [keepX, dropY]
      · simp [List.filter_cons, keepX]

/-- **Ties keep their order.** -/
theorem filter_sortBy (keep : α → Bool)
    (ties : ∀ x y, keep x = true → keep y = true → before x y = true) (xs : List α) :
    (sortBy before xs).filter keep = xs.filter keep := by
  induction xs with
  | nil => rfl
  | cons x rest ih =>
    unfold sortBy
    rw [filter_insertBy keep ties, List.filter_cons, List.filter_cons, ih]

end Sorting

/-! ### Rankings -/

/-- `order` is `items` from the highest rank down, ties as they stand in `items`. -/
structure IsRanking {α : Type} (rank : α → Int) (items order : List α) : Prop where
  /-- The items are the same. -/
  perm : order.Perm items
  /-- No item has a higher rank than an earlier one. -/
  descending : order.Pairwise fun higher lower => rank lower ≤ rank higher
  /-- The items of one rank keep their order. -/
  ties : ∀ r, order.filter (fun item => rank item = r) = items.filter (fun item => rank item = r)

/-- Sorting by descending rank makes a ranking. -/
theorem isRanking_sortBy {α : Type} (rank : α → Int) (items : List α) :
    IsRanking rank items
      (sortBy (fun left right => decide (rank right ≤ rank left)) items) where
  perm := sortBy_perm _ items
  descending := by
    have sorted : (sortBy (fun left right => decide (rank right ≤ rank left)) items).Pairwise
        fun left right => decide (rank right ≤ rank left) = true := by
      refine sortBy_pairwise (fun x y => ?_) (fun x y z => ?_) items
      · simp only [decide_eq_true_eq]
        omega
      · simp only [decide_eq_true_eq]
        omega
    exact sorted.imp fun le => of_decide_eq_true le
  ties r := by
    refine filter_sortBy _ (fun x y sameX sameY => ?_) items
    simp only [decide_eq_true_eq] at sameX sameY ⊢
    omega

/-- Two items that are kept stand as they do in any list of which the same is kept. -/
theorem pair_sublist_of_filter_eq {α : Type} {keep : α → Bool} {left right : List α}
    (same : left.filter keep = right.filter keep) {x y : α} (keepX : keep x = true)
    (keepY : keep y = true) (pair : [x, y].Sublist left) : [x, y].Sublist right := by
  have both : [x, y].filter keep = [x, y] := by simp [keepX, keepY]
  have kept := pair.filter keep
  rw [both, same] at kept
  exact kept.trans List.filter_sublist

section Ranks

variable {α : Type} {rank : α → Int} {items order : List α} {x y : α}

/-- Of two items of one rank, the earlier one stays in front. -/
theorem IsRanking.pair_sublist (ranking : IsRanking rank items order)
    (pair : [x, y].Sublist items) (tie : rank x = rank y) : [x, y].Sublist order :=
  pair_sublist_of_filter_eq (ranking.ties (rank y)).symm (decide_eq_true tie)
    (decide_eq_true rfl) pair

/-- Of two items of one rank, the one in front has been the earlier one. -/
theorem IsRanking.pair_sublist_items (ranking : IsRanking rank items order)
    (pair : [x, y].Sublist order) (tie : rank x = rank y) : [x, y].Sublist items :=
  pair_sublist_of_filter_eq (ranking.ties (rank y)) (decide_eq_true tie) (decide_eq_true rfl) pair

/-- **What is not among the first of a ranking** has a lower rank than they have, or has the rank of
some of them and stands behind these. -/
theorem IsRanking.lower_or_later (ranking : IsRanking rank items order) {count : Nat}
    (first : x ∈ order.take count) (member : y ∈ items) (beyond : y ∉ order.take count) :
    rank y < rank x ∨ rank y = rank x ∧ [x, y].Sublist items := by
  have behind : y ∈ order.drop count := by
    have inside := ranking.perm.mem_iff.mpr member
    rw [← List.take_append_drop count order] at inside
    exact (List.mem_append.mp inside).resolve_left beyond
  have pair : [x, y].Sublist order := by
    rw [← List.take_append_drop count order]
    exact (List.singleton_sublist.mpr first).append (List.singleton_sublist.mpr behind)
  have le : rank y ≤ rank x := by
    have descending := ranking.descending.sublist pair
    exact (List.pairwise_cons.mp descending).1 y List.mem_cons_self
  rcases Int.lt_or_eq_of_le le with lower | tie
  · exact Or.inl lower
  · exact Or.inr ⟨tie, ranking.pair_sublist_items pair tie.symm⟩

end Ranks

end CodeBrief
