/-
**Blocks are the shortest balanced texts.**

The search for the end of a block goes on character by character. What it finds can be told without
it: by the depths at all places of the text, the first place at which a closing brace brings the depth
from one to zero, and whether there is one.

* `ClosesAt` — such a place, told by the number of characters up to it.
* `isLeast_closesAt` — the search stops at the first of them.
* `braceDepth_pos_of_isPrefix` — what a block at a brace begins with has an open brace.
* `block_isShortestBalanced` — the block at any place of any text.
-/

import CodeBrief.Proofs.Script.Block
import Mathlib.Order.Bounds.Defs

namespace CodeBrief.Script

/-- The `k`-th character of a text closes the outermost brace: a closing brace in front of which the
depth is one, and behind which it is zero. -/
structure ClosesAt (text : List Char) (k : Nat) : Prop where
  brace : text[k - 1]? = some '}'
  before : braceDepth (text.take (k - 1)) = 1
  after : braceDepth (text.take k) = 0

theorem not_closesAt_zero (text : List Char) : ¬ ClosesAt text 0 := by
  intro closes
  have before := closes.before
  rw [Nat.zero_sub, List.take_zero, braceDepth_nil] at before
  cases before

theorem closesAt_succ {text : List Char} {k : Nat} :
    ClosesAt text (k + 1) ↔ ClosesFrom 0 text k := by
  constructor
  · intro closes
    exact ⟨closes.brace, by rw [Int.zero_add]; exact closes.before⟩
  · rintro ⟨brace, before⟩
    rw [Int.zero_add] at before
    refine ⟨brace, before, ?_⟩
    rw [braceDepth_take_succ brace, before]
    rfl

theorem exists_closesAt_iff {text : List Char} :
    (∃ k, ClosesAt text k) ↔ ∃ k, ClosesFrom 0 text k := by
  constructor
  · rintro ⟨_ | k, closes⟩
    · exact absurd closes (not_closesAt_zero text)
    · exact ⟨k, closesAt_succ.mp closes⟩
  · rintro ⟨k, closes⟩
    exact ⟨k + 1, closesAt_succ.mpr closes⟩

theorem isLeast_closesAt {text : List Char} {k : Nat} (closes : ClosesFrom 0 text k)
    (first : ∀ m < k, ¬ ClosesFrom 0 text m) : IsLeast {k | ClosesAt text k} (k + 1) := by
  refine ⟨closesAt_succ.mpr closes, fun m later => ?_⟩
  cases m with
  | zero => exact absurd later (not_closesAt_zero text)
  | succ m => exact Nat.succ_le_succ (Nat.le_of_not_lt fun before =>
      first m before (closesAt_succ.mp later))

/-! ### What a block begins with -/

/-- A block is closed nowhere before its end. -/
theorem not_closesFrom_inside {text : List Char} {k : Nat} (inside : k + 1 < (blockAt text).length) :
    ¬ ClosesFrom 0 text k := by
  rcases blockAt_cases text with ⟨last, -, first, block⟩ | ⟨unclosed, -⟩
  · rw [block, List.length_take] at inside
    exact first k (by omega)
  · exact unclosed k

theorem blockAt_isPrefix (text : List Char) : blockAt text <+: text := by
  rcases blockAt_cases text with ⟨last, -, -, block⟩ | ⟨-, block⟩
  · rw [block]
    exact List.take_prefix _ _
  · rw [block]
    split
    · exact List.prefix_rfl
    · exact List.nil_prefix

theorem blockAt_ne_nil {text : List Char} (opens : text.head? = some '{') : blockAt text ≠ [] := by
  obtain ⟨after, rfl⟩ := List.head?_eq_some_iff.mp opens
  obtain ⟨inner, -, isBlock, -⟩ := blockAt_fromBrace after
  exact isBlock ▸ List.cons_ne_nil '{' inner

/-- **What a block at a brace begins with has an open brace**, unless it is nothing or all. -/
theorem braceDepth_pos_of_isPrefix {text front : List Char} (opens : text.head? = some '{')
    (nonempty : front ≠ []) (begins : front <+: blockAt text) (proper : front ≠ blockAt text) :
    0 < braceDepth front := by
  have shorter : front.length < (blockAt text).length :=
    Nat.lt_of_le_of_ne begins.length_le fun same => proper (begins.eq_of_length same)
  rw [List.prefix_iff_eq_take.mp (begins.trans (blockAt_isPrefix text))]
  refine braceDepth_take_pos opens (fun m before => ?_) (List.length_pos_iff.mpr nonempty)
    (Nat.le_refl _)
  exact not_closesFrom_inside (Nat.lt_of_le_of_lt before shorter)

/-! ### The block at a place -/

theorem toList_block (content : String) (start : Nat) :
    (block content start).toList = blockAt (content.toList.drop start) :=
  String.toList_ofList

/-- **The block at a place is the shortest balanced text from there on.** If some character behind the
place is a closing brace that brings the depth from one to zero, then the block goes up to the first
such character. Otherwise it is the rest of the text, or nothing if the rest has no opening brace. At
an opening brace the block is not empty, and all that it begins with, except for nothing and itself,
opens more braces than it closes. -/
theorem block_isShortestBalanced (content : String) (start : Nat) :
    let text := content.toList.drop start
    ((∃ k, ClosesAt text k) →
      ∃ k, IsLeast {k | ClosesAt text k} k ∧ (block content start).toList = text.take k) ∧
    ((¬ ∃ k, ClosesAt text k) →
      (block content start).toList = if '{' ∈ text then text else []) ∧
    (text.head? = some '{' → block content start ≠ "" ∧
      ∀ front, front ≠ [] → front <+: (block content start).toList →
        front ≠ (block content start).toList → 0 < braceDepth front) := by
  intro text
  rw [toList_block, exists_closesAt_iff]
  refine ⟨fun closed => ?_, fun unclosed => ?_, fun opens => ⟨fun empty => ?_, fun front => ?_⟩⟩
  · rcases blockAt_cases text with ⟨k, closes, first, isBlock⟩ | ⟨unclosed, -⟩
    · exact ⟨k + 1, isLeast_closesAt closes first, isBlock⟩
    · obtain ⟨k, closes⟩ := closed
      exact absurd closes (unclosed k)
  · exact blockAt_eq_self fun k closes => unclosed ⟨k, closes⟩
  · refine blockAt_ne_nil opens ?_
    rw [← toList_block, empty, String.toList_empty]
  · exact braceDepth_pos_of_isPrefix opens

end CodeBrief.Script
