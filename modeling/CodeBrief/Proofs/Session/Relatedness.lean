/-
**When two texts are related.**

Texts are meant to be related if they share at least three different words that are longer than
three characters. What is counted is how often the shared words stand in the first text, so that one
word that is repeated makes up for words that are missing, and the order of the texts matters.

* `sharedWords` — the longer words that two texts share, each once; `sharedWords_comm` says that
  their order does not matter.
* `areRelated_iff` — what is counted.
* `areRelated_countsRepeats` — when it tells whether three different words are shared, and when it
  does not depend on the order of the texts.
-/

import CodeBrief.Session.Memory
import Mathlib.Algebra.BigOperators.Group.Finset.Basic
import Mathlib.Algebra.Order.BigOperators.Group.Finset

namespace CodeBrief

/-- The words of more than three characters that two texts share, in lower case, each once. -/
def sharedWords (left right : String) : Finset (List Char) :=
  ((loweredWords left).toFinset ∩ (loweredWords right).toFinset).filter fun word => 3 < word.length

/-- How often the words that two texts share stand in the first one. -/
def sharedWeight (left right : String) : Nat :=
  ∑ word ∈ sharedWords left right, (loweredWords left).count word

theorem sharedWords_comm (left right : String) :
    sharedWords left right = sharedWords right left := by
  unfold sharedWords
  rw [Finset.inter_comm]

theorem mem_sharedWords {left right : String} {word : List Char} :
    word ∈ sharedWords left right ↔
      (word ∈ loweredWords left ∧ word ∈ loweredWords right) ∧ 3 < word.length := by
  unfold sharedWords
  rw [Finset.mem_filter, Finset.mem_inter, List.mem_toFinset, List.mem_toFinset]

/-- **What is counted** is how often the shared words stand in the first text. -/
theorem areRelated_iff {left right : String} :
    areRelated left right = true ↔ 3 ≤ sharedWeight left right := by
  have shared : sharedWords left right = (loweredWords left).toFinset.filter fun word =>
      ((loweredWords right).contains word && 3 < word.length) = true := by
    ext word
    simp [mem_sharedWords, and_assoc]
  have counted : sharedWeight left right = (loweredWords left).countP fun word =>
      (loweredWords right).contains word && 3 < word.length := by
    unfold sharedWeight
    rw [shared]
    convert Finset.sum_filter_count_eq_countP
      (fun word => ((loweredWords right).contains word && 3 < word.length) = true)
      (loweredWords left) using 2
    · -- Words are compared in one way only.
      congr!
    · simp
  unfold areRelated
  rw [counted, decide_eq_true_eq]
  rfl

theorem one_le_count {left right : String} {word : List Char}
    (member : word ∈ sharedWords left right) : 1 ≤ (loweredWords left).count word :=
  List.count_pos_iff.mpr (mem_sharedWords.mp member).1.1

theorem card_sharedWords_le (left right : String) :
    (sharedWords left right).card ≤ sharedWeight left right := by
  rw [Finset.card_eq_sum_ones]
  exact Finset.sum_le_sum fun word member => one_le_count member

theorem sharedWeight_eq_card {left right : String}
    (once : ∀ word ∈ sharedWords left right, (loweredWords left).count word = 1) :
    sharedWeight left right = (sharedWords left right).card := by
  rw [Finset.card_eq_sum_ones]
  exact Finset.sum_congr rfl once

/-- **Two texts are related** if they share three different words, and also if they share fewer that
stand three times in the first text altogether. The order of the texts does not matter just if the
shared words stand three times in both or in none. If no shared word is repeated, both come to the
number of different words. -/
theorem areRelated_countsRepeats (left right : String) :
    (areRelated left right = true ↔
      3 ≤ (sharedWords left right).card ∨
        ((sharedWords left right).card < 3 ∧ 3 ≤ sharedWeight left right)) ∧
      (areRelated left right = areRelated right left ↔
        (3 ≤ sharedWeight left right ↔ 3 ≤ sharedWeight right left)) ∧
      ((∀ word ∈ sharedWords left right,
          (loweredWords left).count word = 1 ∧ (loweredWords right).count word = 1) →
        (areRelated left right = true ↔ 3 ≤ (sharedWords left right).card) ∧
          areRelated left right = areRelated right left) := by
  have order : areRelated left right = areRelated right left ↔
      (3 ≤ sharedWeight left right ↔ 3 ≤ sharedWeight right left) := by
    rw [Bool.eq_iff_iff, areRelated_iff, areRelated_iff]
  refine ⟨?_, order, fun once => ?_⟩
  · have some := card_sharedWords_le left right
    rw [areRelated_iff]
    omega
  · have first := sharedWeight_eq_card fun word member => (once word member).1
    have second : sharedWeight right left = (sharedWords left right).card := by
      rw [← sharedWords_comm right left]
      refine sharedWeight_eq_card fun word member => (once word ?_).2
      rwa [sharedWords_comm]
    rw [order, areRelated_iff, first, second]
    exact ⟨Iff.rfl, Iff.rfl⟩

/-- One shared word makes two texts related if it is repeated, and in one order only. -/
theorem not_areRelated_comm_repeatedWord :
    ¬(areRelated "login login login" "login" = true ↔
        3 ≤ (sharedWords "login login login" "login").card) ∧
      areRelated "login login login" "login" ≠ areRelated "login" "login login login" := by
  decide +kernel

end CodeBrief
