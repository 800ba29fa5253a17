/-
**Counting occurrences across a character that cannot be part of one.**

Occurrences are counted from the left without overlap, so that the counts of two parts of a text do
not add up to that of the text: an occurrence may go over the border, and one more or less on the
left may shift all on the right. At a character that does not occur in the needle both are ruled
out.

* `occursIn_iff` — what occurs in a text is a part of it.
* `isPrefixOf_append_cons` — no occurrence goes over such a character.
* `countOf_append_cons` — the counts before and after it add up.
* `countOf_self_pos` — a text occurs in itself.
-/

import CodeBrief.Text.Occurrence

namespace CodeBrief.Text

variable {needle : List Char} {c : Char}

theorem occursIn_iff {text : List Char} : occursIn needle text = true ↔ needle <:+: text := by
  induction text with
  | nil => rw [occursIn, List.isEmpty_iff, List.infix_nil]
  | cons d text ih =>
    rw [occursIn, Bool.or_eq_true, List.isPrefixOf_iff_prefix, ih, List.infix_cons_iff]

/-- **No occurrence goes over a character that is not part of one.** -/
theorem isPrefixOf_append_cons (absent : c ∉ needle) (left right : List Char) :
    needle.isPrefixOf (left ++ c :: right) = needle.isPrefixOf left := by
  induction left generalizing needle with
  | nil =>
    cases needle with
    | nil => rfl
    | cons d needle =>
      have other : (d == c) = false :=
        beq_false_of_ne fun same => absent (same ▸ List.mem_cons_self)
      rw [List.nil_append, List.isPrefixOf_cons_cons, other]
      rfl
  | cons e left ih =>
    cases needle with
    | nil => rfl
    | cons d needle =>
      rw [List.cons_append, List.isPrefixOf_cons_cons, List.isPrefixOf_cons_cons,
        ih fun member => absent (List.mem_cons_of_mem d member)]

theorem isPrefixOf_cons_of_not_mem (nonempty : needle ≠ []) (absent : c ∉ needle)
    (rest : List Char) : needle.isPrefixOf (c :: rest) = false := by
  rw [← List.nil_append (c :: rest), isPrefixOf_append_cons absent]
  exact Bool.eq_false_iff.mpr fun found =>
    nonempty (List.prefix_nil.mp (List.isPrefixOf_iff_prefix.mp found))

/-- The count goes on anew after the character, wherever it has come to before. -/
theorem countFrom_append_cons (nonempty : needle ≠ []) (absent : c ∉ needle)
    (left right : List Char) {skip : Nat} (inside : skip ≤ left.length) :
    countFrom needle skip (left ++ c :: right) =
      countFrom needle skip left + countOf needle right := by
  induction left generalizing skip with
  | nil =>
    rw [List.length_nil, Nat.le_zero] at inside
    subst inside
    have passed : countFrom needle 0 (c :: right) = countOf needle right := by
      rw [countFrom, isPrefixOf_cons_of_not_mem nonempty absent]
      rfl
    rw [List.nil_append, passed, countFrom, Nat.zero_add]
  | cons d left ih =>
    rw [List.length_cons] at inside
    cases skip with
    | succ skip =>
      rw [List.cons_append, countFrom, countFrom]
      exact ih (Nat.le_of_succ_le_succ inside)
    | zero =>
      rw [List.cons_append, countFrom, countFrom, ← List.cons_append,
        isPrefixOf_append_cons absent]
      split
      · -- An occurrence ends before the character.
        rename_i found
        have fits := (List.isPrefixOf_iff_prefix.mp found).length_le
        rw [List.length_cons] at fits
        rw [ih (Nat.sub_le_of_le_add fits), Nat.add_assoc]
      · exact ih (Nat.zero_le _)

/-- **The counts before and after such a character add up.** -/
theorem countOf_append_cons (nonempty : needle ≠ []) (absent : c ∉ needle)
    (left right : List Char) :
    countOf needle (left ++ c :: right) = countOf needle left + countOf needle right :=
  countFrom_append_cons nonempty absent left right (Nat.zero_le _)

theorem countOf_self_pos (nonempty : needle ≠ []) : 1 ≤ countOf needle needle := by
  obtain ⟨d, rest, rfl⟩ := List.exists_cons_of_ne_nil nonempty
  have found : (d :: rest).isPrefixOf (d :: rest) = true :=
    List.isPrefixOf_iff_prefix.mpr List.prefix_rfl
  rw [countOf, countFrom, if_pos found]
  exact Nat.le_add_right 1 _

end CodeBrief.Text
