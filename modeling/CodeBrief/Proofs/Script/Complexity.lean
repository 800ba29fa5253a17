/-
**Complexity splits at separators.**

A character that is no part of a word, no ampersand, no bar and no question mark counts for nothing
itself, and nothing that counts goes across it. So the branches of a text with such a character in
it are those on its two sides. What counts takes a character of its own each time.

* `branchCount_append`, `operatorCount_append`, `complexityOf_append` — this for the words that
  branch, for the doubled signs, and for the complexity.
* `complexityOf_block_le` — a block that stands in a text is at most as complex as the text.
* `complexityOf_le_length` — a text is at most as complex as it is long, and one.
* `complexity_additive` — scripts put together at a separator, and how complex they can be.
-/

import CodeBrief.Proofs.Script.Block
import CodeBrief.Proofs.Text.Pieces
import CodeBrief.Script.Complexity

namespace CodeBrief.Script

/-- Nothing that makes a script complex holds this character. -/
structure IsSeparator (c : Char) : Prop where
  notWord : Text.isWord c = false
  notAmpersand : c ≠ '&'
  notBar : c ≠ '|'
  notQuestion : c ≠ '?'

theorem isSeparator_opening : IsSeparator '{' :=
  ⟨by decide, by decide, by decide, by decide⟩

theorem isSeparator_closing : IsSeparator '}' :=
  ⟨by decide, by decide, by decide, by decide⟩

/-- A character that does not double a sign with the next one counts for nothing. -/
theorem operatorCount_cons {first : Char} {rest : List Char}
    (single : ∀ tail, rest = first :: tail → first ≠ '&' ∧ first ≠ '|') :
    operatorCount (first :: rest) = operatorCount rest := by
  refine operatorCount.eq_3 first rest ?_ ?_
  · rintro tail rfl rfl
    exact (single tail rfl).1 rfl
  · rintro tail rfl rfl
    exact (single tail rfl).2 rfl

section Separator

variable {c : Char} (separator : IsSeparator c) (left right : List Char)
include separator

theorem branchCount_append :
    branchCount (left ++ c :: right) = branchCount left + branchCount right := by
  have separates : (fun d => !Text.isWord d) c = true := by simp [separator.notWord]
  unfold branchCount wordsOf
  rw [Text.pieces_append separates, List.countP_append]

theorem operatorCount_append :
    operatorCount (left ++ c :: right) = operatorCount left + operatorCount right := by
  fun_induction operatorCount left with
  | case1 rest ih => simp [operatorCount, ih, Nat.add_assoc]
  | case2 rest ih => simp [operatorCount, ih, Nat.add_assoc]
  | case3 first rest notAmpersands notBars ih =>
    rw [List.cons_append, operatorCount_cons, ih]
    intro tail same
    cases rest with
    | nil =>
      -- What follows is the separator.
      obtain ⟨rfl, -⟩ := List.cons.inj same
      exact ⟨separator.notAmpersand, separator.notBar⟩
    | cons next rest =>
      obtain ⟨rfl, -⟩ := List.cons.inj same
      exact ⟨fun isSign => notAmpersands rest isSign (by rw [isSign]),
        fun isSign => notBars rest isSign (by rw [isSign])⟩
  | case4 =>
    rw [List.nil_append, operatorCount_cons, Nat.zero_add]
    exact fun _ _ => ⟨separator.notAmpersand, separator.notBar⟩

/-- **Complexity splits at a separator.** -/
theorem complexityOf_append :
    complexityOf (left ++ c :: right) + 1 = complexityOf left + complexityOf right := by
  have questions : (left ++ c :: right).count '?' = left.count '?' + right.count '?' := by
    rw [List.count_append, List.count_cons_of_ne separator.notQuestion]
  unfold complexityOf
  rw [branchCount_append separator, operatorCount_append separator, questions]
  omega

end Separator

theorem complexityOf_nil : complexityOf [] = 1 := by decide

theorem complexityOf_pos (text : List Char) : 1 ≤ complexityOf text := by
  unfold complexityOf
  omega

/-- **A block is at most as complex as the text that it stands in**: braces are separators, and the
block goes from one to another or to the end. -/
theorem complexityOf_block_le (before after : List Char) :
    complexityOf (blockAt (fromBrace after)) ≤ complexityOf (before ++ fromBrace after) := by
  obtain ⟨inner, rest, block, rfl, ends⟩ := blockAt_fromBrace after
  have ofBlock := complexityOf_append isSeparator_opening [] inner
  have ofText := complexityOf_append isSeparator_opening before (inner ++ rest)
  have inside : complexityOf inner ≤ complexityOf (inner ++ rest) := by
    rcases ends with rfl | ⟨front, rfl⟩
    · simp
    · -- The closing brace separates the block from what follows.
      have short := complexityOf_append isSeparator_closing front []
      have long := complexityOf_append isSeparator_closing front rest
      have positive := complexityOf_pos rest
      rw [complexityOf_nil] at short
      rw [List.append_assoc, List.singleton_append]
      omega
  have positive := complexityOf_pos before
  rw [complexityOf_nil, List.nil_append] at ofBlock
  rw [block, fromBrace]
  omega

/-! ### Characters that count -/

theorem branchCount_le (text : List Char) : branchCount text ≤ text.countP Text.isWord := by
  have notEmpty : branchWords.contains (String.ofList []) = false := by decide
  have words := Text.countP_pieces_le (fun word => branchWords.contains (String.ofList word))
    notEmpty (fun c => !Text.isWord c) text
  simp only [Bool.not_not] at words
  exact words

theorem operatorCount_le (text : List Char) :
    operatorCount text ≤ text.countP fun c => c == '&' || c == '|' := by
  fun_induction operatorCount text with
  | case1 rest ih => simp; omega
  | case2 rest ih => simp; omega
  | case3 first rest _ _ ih => exact Nat.le_trans ih (List.sublist_cons_self first rest).countP_le
  | case4 => exact Nat.le_refl _

/-- No character counts twice. -/
theorem countP_le_length (text : List Char) :
    text.countP Text.isWord + text.countP (fun c => c == '&' || c == '|') + text.count '?' ≤
      text.length := by
  induction text with
  | nil => exact Nat.le_refl _
  | cons c rest ih =>
    have once : (if Text.isWord c then 1 else 0) + (if (c == '&' || c == '|') then 1 else 0) +
        (if c == '?' then 1 else 0) ≤ 1 := by
      by_cases word : Text.isWord c = true
      · have notSign : c ≠ '&' ∧ c ≠ '|' ∧ c ≠ '?' := by
          refine ⟨?_, ?_, ?_⟩ <;> rintro rfl <;> exact absurd word (by decide)
        simp [word, notSign]
      · grind
    rw [List.countP_cons, List.countP_cons, List.count_cons, List.length_cons]
    omega

/-- **A text is at most as complex as it is long, and one**: each word that branches takes a
character of a word, and each other branch a sign. -/
theorem complexityOf_le_length (text : List Char) : complexityOf text ≤ text.length + 1 := by
  have words := branchCount_le text
  have signs := operatorCount_le text
  have disjoint := countP_le_length text
  unfold complexityOf
  omega

/-- **Complexity is additive at separators, and bounded.** Two scripts with a character between them
that is no part of a word, no ampersand, no bar and no question mark have the branches of each of
them; since every count begins at one, the sum is one too many. And a script has a branch for each of
its characters at most. -/
theorem complexity_additive :
    (∀ (left right : String) (c : Char), Text.isWord c = false → c ≠ '&' → c ≠ '|' → c ≠ '?' →
      (complexity (left ++ String.singleton c ++ right) : Int) =
        complexity left + complexity right - 1) ∧
    ∀ code : String, 1 ≤ complexity code ∧ complexity code ≤ 1 + code.length := by
  refine ⟨fun left right c notWord notAmpersand notBar notQuestion => ?_, fun code => ⟨?_, ?_⟩⟩
  · have separator : IsSeparator c := ⟨notWord, notAmpersand, notBar, notQuestion⟩
    have whole : (left ++ String.singleton c ++ right).toList =
        left.toList ++ c :: right.toList := by
      rw [String.toList_append, String.toList_append, String.toList_singleton, List.append_assoc]
      rfl
    have sum := complexityOf_append separator left.toList right.toList
    rw [complexity, complexity, complexity, whole]
    omega
  · exact complexityOf_pos code.toList
  · have bound := complexityOf_le_length code.toList
    rw [String.length_toList, Nat.add_comm] at bound
    exact bound

end CodeBrief.Script
