/-
**Keeping first occurrences.**

`List.eraseDups` keeps the first one of equal elements.

* `eraseDups_concat` — an element at the end is kept if it is new.
* `nodup_eraseDups`, `length_eraseDups_le` — each element is kept once.
* `eraseDups_map`, `eraseDups_append_of_disjoint` — lists renamed one-to-one, and lists that share
  nothing.
* `eraseDups_filter`, `eraseDups_cons_eq_erase` — lists of which some elements are kept, and an
  element in front.
* `eraseDups_prefix_append`, `pairwise_eraseDups` — what is appended changes nothing before it, and
  the elements stand in the order of their first occurrences.
-/

import Mathlib.Data.List.Induction
import Mathlib.Data.List.Nodup

namespace CodeBrief

variable {α β : Type} [BEq α] [LawfulBEq α] [BEq β] [LawfulBEq β]

/-- **An element at the end is kept if it is new.** -/
theorem eraseDups_concat (xs : List α) (x : α) :
    (xs ++ [x]).eraseDups = if x ∈ xs then xs.eraseDups else xs.eraseDups ++ [x] := by
  rw [List.eraseDups_append]
  by_cases old : x ∈ xs <;> simp [List.removeAll, List.eraseDups_cons, old]

theorem nodup_eraseDups (xs : List α) : xs.eraseDups.Nodup := by
  induction xs using List.reverseRecOn with
  | nil => exact List.nodup_nil
  | append_singleton xs x ih =>
    rw [eraseDups_concat]
    split
    · exact ih
    · rename_i new
      refine List.nodup_append.mpr ⟨ih, List.nodup_singleton x, fun y member z last same => ?_⟩
      rw [List.mem_singleton] at last
      rw [same, last] at member
      exact new (List.mem_eraseDups.mp member)

theorem length_eraseDups_le (xs : List α) : xs.eraseDups.length ≤ xs.length := by
  induction xs using List.reverseRecOn with
  | nil => exact Nat.le_refl 0
  | append_singleton xs x ih =>
    rw [eraseDups_concat]
    split <;> simp only [List.length_append, List.length_singleton] <;> omega

/-- Renaming one-to-one keeps the same places. -/
theorem eraseDups_map {f : α → β} (injective : Function.Injective f) (xs : List α) :
    (xs.map f).eraseDups = xs.eraseDups.map f := by
  induction xs using List.reverseRecOn with
  | nil => rfl
  | append_singleton xs x ih =>
    rw [List.map_append, List.map_singleton, eraseDups_concat, eraseDups_concat, ih]
    simp only [List.mem_map_of_injective injective]
    split
    · rfl
    · rw [List.map_append, List.map_singleton]

/-- Lists that share nothing. -/
theorem eraseDups_append_of_disjoint {xs ys : List α} (disjoint : xs.Disjoint ys) :
    (xs ++ ys).eraseDups = xs.eraseDups ++ ys.eraseDups := by
  have kept : ys.removeAll xs = ys := by
    refine List.filter_eq_self.mpr fun y member => ?_
    simpa using fun shared => disjoint shared member
  rw [List.eraseDups_append, kept]

theorem eraseDups_filter (keep : α → Bool) (xs : List α) :
    (xs.filter keep).eraseDups = xs.eraseDups.filter keep := by
  induction xs using List.reverseRecOn with
  | nil => rfl
  | append_singleton xs x ih =>
    rw [List.filter_append, eraseDups_concat]
    by_cases kept : keep x = true
    · have last : [x].filter keep = [x] := by simp [kept]
      have known : x ∈ xs.filter keep ↔ x ∈ xs := by simp [kept]
      rw [last, eraseDups_concat, ih]
      simp only [known]
      split
      · rfl
      · rw [List.filter_append, last]
    · have last : [x].filter keep = [] := by simp [kept]
      rw [last, List.append_nil, ih]
      split
      · rfl
      · rw [List.filter_append, last, List.append_nil]

/-- **An element in front** takes the place of its first occurrence. -/
theorem eraseDups_cons_eq_erase (x : α) (xs : List α) :
    (x :: xs).eraseDups = x :: xs.eraseDups.erase x := by
  rw [List.eraseDups_cons, eraseDups_filter, (nodup_eraseDups xs).erase_eq_filter]
  rfl

/-- What is appended changes nothing before it. -/
theorem eraseDups_prefix_append (xs ys : List α) : xs.eraseDups <+: (xs ++ ys).eraseDups := by
  rw [List.eraseDups_append]
  exact List.prefix_append _ _

/-- **The elements stand in the order of their first occurrences**: before the first occurrence of
one there is none of those behind it. -/
theorem pairwise_eraseDups (xs : List α) :
    xs.eraseDups.Pairwise fun x y => ∃ before after, xs = before ++ x :: after ∧ y ∉ before := by
  induction xs using List.reverseRecOn with
  | nil => exact List.Pairwise.nil
  | append_singleton xs z ih =>
    have earlier : xs.eraseDups.Pairwise fun x y =>
        ∃ before after, xs ++ [z] = before ++ x :: after ∧ y ∉ before := by
      refine ih.imp ?_
      rintro x y ⟨before, after, rfl, absent⟩
      exact ⟨before, after ++ [z], by rw [List.append_assoc, List.cons_append], absent⟩
    rw [eraseDups_concat]
    split
    · exact earlier
    · rename_i new
      refine List.pairwise_append.mpr ⟨earlier, List.pairwise_singleton _ z, ?_⟩
      intro x member y last
      rw [List.mem_singleton.mp last]
      obtain ⟨before, after, rfl⟩ := List.append_of_mem (List.mem_eraseDups.mp member)
      refine ⟨before, after ++ [z], by rw [List.append_assoc, List.cons_append], fun inside => ?_⟩
      exact new (List.mem_append_left _ inside)

end CodeBrief
