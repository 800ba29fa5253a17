/-
**How far a block goes.**

A block goes on to the closing brace with which the number of open braces comes back to zero for the
first time, or to the end of the text if there is none. Before a brace is opened, the number can be
negative and come to zero at an opening brace; this ends nothing.

* `braceDepth` — the braces that a text opens, less those that it closes.
* `ClosesFrom` — a closing brace at depth one, counted from some depth on.
* `blockFrom_cons` — the step of the search; `blockFrom_eq_take`, `blockFrom_eq_self` — the whole
  search, to the first such brace or without one.
* `blockAt_cases` — a block is empty, goes up to such a brace or is all that is left.
* `blockAt_fromBrace` — the block at a brace.
* `IsBlock` — a text that opens a brace and closes it with its last character, told by depths alone;
  `blockAt_append` — such a text is the block at its head, whatever follows.
-/

import CodeBrief.Script.Function
import Mathlib.Data.Nat.Find

namespace CodeBrief.Script

/-! ### Depth -/

/-- How many braces a text opens, less those that it closes. -/
def braceDepth (text : List Char) : Int :=
  text.count '{' - text.count '}'

/-- What one character adds to the depth. -/
def braceStep (c : Char) : Int :=
  if c = '{' then 1 else if c = '}' then -1 else 0

@[simp] theorem braceStep_opening : braceStep '{' = 1 := rfl

@[simp] theorem braceStep_closing : braceStep '}' = -1 := rfl

theorem braceStep_nonneg {c : Char} (other : c ≠ '}') : 0 ≤ braceStep c := by
  unfold braceStep
  rw [if_neg other]
  split <;> decide

@[simp] theorem braceDepth_nil : braceDepth [] = 0 := rfl

@[simp] theorem braceDepth_cons (c : Char) (text : List Char) :
    braceDepth (c :: text) = braceStep c + braceDepth text := by
  unfold braceDepth braceStep
  by_cases opens : c = '{'
  · subst opens
    simp
    omega
  · by_cases closes : c = '}'
    · subst closes
      simp
      omega
    · simp [opens, closes]

theorem braceDepth_append (front back : List Char) :
    braceDepth (front ++ back) = braceDepth front + braceDepth back := by
  unfold braceDepth
  rw [List.count_append, List.count_append]
  omega

/-- The depth behind one more character. -/
theorem braceDepth_take_succ {text : List Char} {k : Nat} {c : Char} (here : text[k]? = some c) :
    braceDepth (text.take (k + 1)) = braceDepth (text.take k) + braceStep c := by
  rw [List.take_add_one, here, Option.toList_some, braceDepth_append, braceDepth_cons,
    braceDepth_nil, Int.add_zero]

/-! ### The search for the end -/

/-- A text that begins `depth` braces deep closes the outermost one behind its first `k`
characters. -/
def ClosesFrom (depth : Int) (text : List Char) (k : Nat) : Prop :=
  text[k]? = some '}' ∧ depth + braceDepth (text.take k) = 1

instance (depth : Int) (text : List Char) : DecidablePred (ClosesFrom depth text) := fun k =>
  inferInstanceAs (Decidable (text[k]? = some '}' ∧ depth + braceDepth (text.take k) = 1))

theorem closesFrom_cons_succ {depth : Int} {c : Char} {text : List Char} {k : Nat} :
    ClosesFrom depth (c :: text) (k + 1) ↔ ClosesFrom (depth + braceStep c) text k := by
  unfold ClosesFrom
  rw [List.getElem?_cons_succ, List.take_succ_cons, braceDepth_cons, Int.add_assoc]

theorem closesFrom_cons_zero {depth : Int} {c : Char} {text : List Char} :
    ClosesFrom depth (c :: text) 0 ↔ c = '}' ∧ depth = 1 := by
  simp [ClosesFrom]

section Search

variable {depth : Int} {started : Bool} {text : List Char}

/-- **The step of the search**: a character that closes nothing outermost belongs to the block. -/
theorem blockFrom_cons {c : Char} (goesOn : ¬ (c = '}' ∧ started = true ∧ depth = 1)) :
    blockFrom depth started (c :: text) =
      (blockFrom (depth + braceStep c) (started || c == '{') text).map (c :: ·) := by
  by_cases opens : c = '{'
  · subst opens
    simp [blockFrom]
  · by_cases closes : c = '}'
    · subst closes
      have further : ¬ (started = true ∧ depth = 1) := fun both => goesOn ⟨rfl, both⟩
      rw [blockFrom, if_neg opens, if_pos rfl, if_neg further]
      simp [Int.sub_eq_add_neg]
    · have other : (c == '{') = false := beq_false_of_ne opens
      simp [blockFrom, braceStep, opens, closes, other]

/-- No more braces are open than have been opened: none before the first one. -/
theorem depth_nonpos_of_not_started {c : Char} (deep : started = false → depth ≤ 0)
    (notYet : (started || c == '{') = false) : depth + braceStep c ≤ 0 := by
  obtain ⟨notStarted, other⟩ := Bool.or_eq_false_iff.mp notYet
  have opensNone : braceStep c ≤ 0 := by
    unfold braceStep
    rw [if_neg (by simpa using other)]
    split <;> decide
  have := deep notStarted
  omega

/-- **The search ends at the first brace that closes the outermost one.** -/
theorem blockFrom_eq_take (deep : started = false → depth ≤ 0) {k : Nat}
    (closes : ClosesFrom depth text k) (first : ∀ m < k, ¬ ClosesFrom depth text m) :
    blockFrom depth started text = some (text.take (k + 1)) := by
  -- Every character changes the depth, so the induction is for all depths.
  induction text generalizing depth started k with
  | nil => cases closes.1
  | cons c text ih =>
    cases k with
    | zero =>
      obtain ⟨rfl, rfl⟩ := closesFrom_cons_zero.mp closes
      have isStarted : started = true := by
        by_contra notStarted
        exact absurd (deep (eq_false_of_ne_true notStarted)) (by decide)
      rw [blockFrom, if_neg (by decide), if_pos rfl, if_pos ⟨isStarted, rfl⟩]
      rfl
    | succ k =>
      have goesOn : ¬ (c = '}' ∧ started = true ∧ depth = 1) := fun ⟨closing, _, atOne⟩ =>
        first 0 (Nat.succ_pos k) (closesFrom_cons_zero.mpr ⟨closing, atOne⟩)
      have rest := ih (depth_nonpos_of_not_started deep) (closesFrom_cons_succ.mp closes)
        fun m before closesEarlier =>
          first (m + 1) (Nat.succ_lt_succ before) (closesFrom_cons_succ.mpr closesEarlier)
      rw [blockFrom_cons goesOn, rest]
      rfl

/-- **Without such a brace the search goes through the text,** and finds it whole if a brace has
been opened in the end. -/
theorem blockFrom_eq_self (unclosed : ∀ k, ¬ ClosesFrom depth text k) :
    blockFrom depth started text = if started = true ∨ '{' ∈ text then some text else none := by
  induction text generalizing depth started with
  | nil => simp [blockFrom]
  | cons c text ih =>
    have goesOn : ¬ (c = '}' ∧ started = true ∧ depth = 1) := fun ⟨closing, _, atOne⟩ =>
      unclosed 0 (closesFrom_cons_zero.mpr ⟨closing, atOne⟩)
    rw [blockFrom_cons goesOn,
      ih fun k closesLater => unclosed (k + 1) (closesFrom_cons_succ.mpr closesLater)]
    have opened : ((started || c == '{') = true ∨ '{' ∈ text) ↔
        (started = true ∨ '{' ∈ c :: text) := by
      rw [Bool.or_eq_true, beq_iff_eq, List.mem_cons, or_assoc, eq_comm (a := c)]
    simp only [opened]
    split <;> rfl

end Search

section BlockAt

variable {text : List Char}

/-- **The block at the head of a text** goes up to the first brace that closes the outermost one. -/
theorem blockAt_eq_take {k : Nat} (closes : ClosesFrom 0 text k)
    (first : ∀ m < k, ¬ ClosesFrom 0 text m) : blockAt text = text.take (k + 1) := by
  rw [blockAt, blockFrom_eq_take (fun _ => Int.le_refl 0) closes first, Option.getD_some]

-- The depth comes to zero at an opening brace first, where the block goes on.
example : blockAt ['}', '{', 'a', '{', '}', 'b', '}'] = ['}', '{', 'a', '{', '}'] := by decide

/-- Without such a brace the block is the whole text, unless this has no opening brace. -/
theorem blockAt_eq_self (unclosed : ∀ k, ¬ ClosesFrom 0 text k) :
    blockAt text = if '{' ∈ text then text else [] := by
  rw [blockAt, blockFrom_eq_self unclosed]
  by_cases opened : '{' ∈ text <;> simp [opened]

theorem ClosesFrom.suffix_take {depth : Int} {k : Nat} (closes : ClosesFrom depth text k) :
    ['}'] <:+ text.take (k + 1) := by
  rw [List.take_add_one, closes.1]
  exact List.suffix_append _ _

theorem suffix_of_suffix_fromBrace {inner : List Char} (last : ['}'] <:+ fromBrace inner) :
    ['}'] <:+ inner := by
  rcases List.suffix_cons_iff.mp last with same | later
  · cases same
  · exact later

/-- **There are two kinds of blocks**: those that are closed, and those that go to the end. -/
theorem blockAt_cases (text : List Char) :
    (∃ k, ClosesFrom 0 text k ∧ (∀ m < k, ¬ ClosesFrom 0 text m) ∧
      blockAt text = text.take (k + 1)) ∨
    (∀ k, ¬ ClosesFrom 0 text k) ∧ blockAt text = if '{' ∈ text then text else [] := by
  by_cases closed : ∃ k, ClosesFrom 0 text k
  · have first : ∀ m < Nat.find closed, ¬ ClosesFrom 0 text m := fun m => Nat.find_min closed
    exact Or.inl ⟨_, Nat.find_spec closed, first, blockAt_eq_take (Nat.find_spec closed) first⟩
  · have unclosed : ∀ k, ¬ ClosesFrom 0 text k := fun k closes => closed ⟨k, closes⟩
    exact Or.inr ⟨unclosed, blockAt_eq_self unclosed⟩

/-- **The block at a brace** begins with it, and stands in front of the rest of the text. -/
theorem blockAt_fromBrace (after : List Char) :
    ∃ inner rest, blockAt (fromBrace after) = '{' :: inner ∧ after = inner ++ rest ∧
      (rest = [] ∨ ['}'] <:+ inner) := by
  rcases blockAt_cases (fromBrace after) with ⟨k, closes, -, block⟩ | ⟨-, block⟩
  · refine ⟨after.take k, after.drop k, block, (List.take_append_drop _ _).symm, Or.inr ?_⟩
    exact suffix_of_suffix_fromBrace closes.suffix_take
  · refine ⟨after, [], ?_, (List.append_nil _).symm, Or.inl rfl⟩
    exact block.trans (if_pos List.mem_cons_self)

end BlockAt

/-! ### Inside a block -/

/-- **Behind an opening brace the depth is positive** up to the brace that closes it. -/
theorem braceDepth_take_pos {text : List Char} (opens : text.head? = some '{') {n : Nat}
    (first : ∀ m < n, ¬ ClosesFrom 0 text m) {k : Nat} (behind : 0 < k) (upTo : k ≤ n) :
    0 < braceDepth (text.take k) := by
  obtain ⟨inner, rfl⟩ := List.head?_eq_some_iff.mp opens
  induction k with
  | zero => exact absurd behind (Nat.lt_irrefl 0)
  | succ k ih =>
    rcases Nat.eq_zero_or_pos k with rfl | further
    · simp
    · have before := ih further (Nat.le_of_succ_le upTo)
      cases here : ('{' :: inner)[k]? with
      | none =>
        rw [List.getElem?_eq_none_iff] at here
        rwa [List.take_of_length_le (Nat.le_succ_of_le here), ← List.take_of_length_le here]
      | some c =>
        rw [braceDepth_take_succ here]
        by_cases closes : c = '}'
        · subst closes
          have notLast : braceDepth (('{' :: inner).take k) ≠ 1 := fun atOne =>
            first k upTo ⟨here, by rw [atOne]; rfl⟩
          rw [braceStep_closing]
          omega
        · have step := braceStep_nonneg closes
          omega

/-! ### Texts that are blocks -/

/-- A text that begins with a brace and whose depth first returns to zero with its last
character. -/
structure IsBlock (block : List Char) : Prop where
  /-- The first character opens a brace. -/
  opens : block.head? = some '{'
  /-- In the end as many braces are closed as are opened. -/
  closes : braceDepth block = 0
  /-- This is so nowhere before. -/
  first : ∀ k < block.length, 0 < k → braceDepth (block.take k) ≠ 0

instance : DecidablePred IsBlock := fun block =>
  decidable_of_iff (block.head? = some '{' ∧ braceDepth block = 0 ∧
    ∀ k < block.length, 0 < k → braceDepth (block.take k) ≠ 0)
  ⟨fun ⟨opens, closes, first⟩ => ⟨opens, closes, first⟩,
    fun ⟨opens, closes, first⟩ => ⟨opens, closes, first⟩⟩

/-- What follows a text does not change which of its braces close it. -/
theorem closesFrom_append {depth : Int} {front : List Char} {k : Nat} (inside : k < front.length)
    (back : List Char) : ClosesFrom depth (front ++ back) k ↔ ClosesFrom depth front k := by
  unfold ClosesFrom
  rw [List.getElem?_append_left inside, List.take_append_of_le_length (Nat.le_of_lt inside)]

section IsBlock

variable {block : List Char} (isBlock : IsBlock block)
include isBlock

/-- **The last character of a block is the first one that closes it.** -/
theorem IsBlock.exists_length_eq : ∃ k, block.length = k + 1 ∧ ClosesFrom 0 block k ∧
    ∀ m < k, ¬ ClosesFrom 0 block m := by
  obtain ⟨inner, rfl⟩ := List.head?_eq_some_iff.mp isBlock.opens
  have first : ∀ m < inner.length, ¬ ClosesFrom 0 ('{' :: inner) m := by
    rintro m short ⟨here, atOne⟩
    refine isBlock.first (m + 1) (Nat.succ_lt_succ short) (Nat.succ_pos m) ?_
    rw [braceDepth_take_succ here, braceStep_closing]
    omega
  have closes := isBlock.closes
  refine ⟨inner.length, rfl, ?_, first⟩
  obtain ⟨c, here⟩ : ∃ c, ('{' :: inner)[inner.length]? = some c :=
    ⟨_, List.getElem?_eq_getElem (Nat.lt_succ_self _)⟩
  have whole := braceDepth_take_succ here
  rw [List.take_of_length_le (Nat.le_refl (inner.length + 1)), closes] at whole
  rcases Nat.eq_zero_or_pos inner.length with none | some
  · rw [none, List.getElem?_cons_zero, Option.some_inj] at here
    rw [none, ← here] at whole
    cases whole
  · -- Up to the last character the depth is positive, so that it closes a brace.
    have positive := braceDepth_take_pos isBlock.opens first some (Nat.le_refl _)
    obtain rfl : c = '}' := by
      by_contra other
      have := braceStep_nonneg other
      omega
    rw [braceStep_closing] at whole
    exact ⟨here, by omega⟩

/-- A block goes from a brace to a brace. -/
theorem IsBlock.exists_inner : ∃ inner, block = fromBrace inner ∧ ['}'] <:+ inner := by
  obtain ⟨k, length, closes, -⟩ := isBlock.exists_length_eq
  obtain ⟨inner, rfl⟩ := List.head?_eq_some_iff.mp isBlock.opens
  have last := closes.suffix_take
  rw [List.take_of_length_le (Nat.le_of_eq length)] at last
  exact ⟨inner, rfl, suffix_of_suffix_fromBrace last⟩

/-- **A text that is a block is the block at its head,** whatever follows. -/
theorem IsBlock.blockAt_append (rest : List Char) : blockAt (block ++ rest) = block := by
  obtain ⟨k, length, closes, first⟩ := isBlock.exists_length_eq
  have inside : k < block.length := length ▸ Nat.lt_succ_self k
  rw [blockAt_eq_take ((closesFrom_append inside rest).mpr closes) fun m before =>
    mt (closesFrom_append (Nat.lt_trans before inside) rest).mp (first m before), ← length,
    List.take_left]

end IsBlock

end CodeBrief.Script
