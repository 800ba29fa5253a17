/-
**Characters of words and blanks.**

* `toNat_of_isAsciiWord` — the code points of ASCII word characters.
* `isWord_of_isBlank` — no character stands in a word and separates words.
-/

import CodeBrief.Text.Blank
import CodeBrief.Text.WordChar

namespace CodeBrief.Text

theorem toNat_of_isAsciiWord {c : Char} (isWord : isAsciiWord c = true) :
    (48 ≤ c.toNat ∧ c.toNat ≤ 57) ∨ (65 ≤ c.toNat ∧ c.toNat ≤ 90) ∨ c.toNat = 95 ∨
      (97 ≤ c.toNat ∧ c.toNat ≤ 122) := by
  have ranges : (decide (c.val ≥ 65 ∧ c.val ≤ 90) ||
      decide (c.val ≥ 97) && decide (c.val ≤ 122) ||
      decide (c.val ≥ 48) && decide (c.val ≤ 57) || c == '_') = true := isWord
  simp only [Bool.or_eq_true, Bool.and_eq_true, decide_eq_true_eq, beq_iff_eq, ge_iff_le,
    UInt32.le_iff_toNat_le] at ranges
  rcases ranges with ((upper | lower) | digit) | underscore
  · exact Or.inr (Or.inl upper)
  · exact Or.inr (Or.inr (Or.inr lower))
  · exact Or.inl digit
  · exact Or.inr (Or.inr (Or.inl (congrArg Char.toNat underscore)))

theorem not_isAsciiWord_of_isBlank {c : Char} (blank : isBlank c = true) :
    isAsciiWord c = false := by
  refine eq_false_of_ne_true fun isWord => ?_
  have code := toNat_of_isAsciiWord isWord
  simp only [isBlank, Bool.or_eq_true, Bool.and_eq_true, decide_eq_true_eq, beq_iff_eq] at blank
  omega

/-- The blanks beyond ASCII. -/
def wideBlanks : List Nat :=
  [0x85, 0xA0, 0x1680] ++ List.range' 0x2000 11 ++ [0x2028, 0x2029, 0x202F, 0x205F, 0x3000]

theorem not_inRanges_wideBlanks : ∀ n ∈ wideBlanks, inRanges wordRanges n = false := by
  decide +kernel

/-- **A blank is no word character.** -/
theorem isWord_of_isBlank {c : Char} (blank : isBlank c = true) : isWord c = false := by
  unfold isWord
  split
  · exact not_isAsciiWord_of_isBlank blank
  · rename_i wide
    refine not_inRanges_wideBlanks _ ?_
    simp only [isBlank, Bool.or_eq_true, Bool.and_eq_true, decide_eq_true_eq, beq_iff_eq] at blank
    simp only [wideBlanks, List.mem_append, List.mem_cons, List.mem_range'_1, List.not_mem_nil]
    omega

theorem isBlank_of_isWord {c : Char} (word : isWord c = true) : isBlank c = false := by
  refine eq_false_of_ne_true fun blank => ?_
  rw [isWord_of_isBlank blank] at word
  cases word

end CodeBrief.Text
