/-
**Patterns in a text whose characters are replaced one by one.**

A reader that does not tell a character from what it is replaced by reads the same of both texts, up
to the replacement. Readers one after another do so if each of them does, and a scan then finds the
same places.

* `ReadsAlike` — a reader and one for the replaced text read the same, up to the replacement.
* `readsAlike_runOf`, `readsAlike_literal`, `ReadsAlike.bind`, `readsAlike_pure` — the readers that
  patterns are built from.
* `found_map` — what a pattern finds in the replaced text.
-/

import CodeBrief.Pattern.Scan
import Mathlib.Data.List.TakeWhile

namespace CodeBrief.Pattern

/-- What `reader'` reads of a text with all characters changed by `change` is what `reader` reads of
the text, with what is given changed by `changeValue`. -/
def ReadsAlike {α β : Type} (change : Char → Char) (changeValue : α → β) (reader : Reader α)
    (reader' : Reader β) : Prop :=
  ∀ text, reader' (text.map change) = (reader text).map (Prod.map changeValue (List.map change))

section Readers

variable {α β γ δ : Type} {change : Char → Char}

theorem readsAlike_pure {changeValue : α → β} {value : α} {value' : β}
    (same : value' = changeValue value) :
    ReadsAlike change changeValue (pure value) (pure value') := by
  intro text
  rw [same]
  rfl

theorem readsAlike_runOf {test : Char → Bool} (same : ∀ c, test (change c) = test c)
    (least : Nat) : ReadsAlike change (List.map change) (runOf least test) (runOf least test) := by
  intro text
  have tested : test ∘ change = test := funext same
  simp only [runOf, List.takeWhile_map, List.dropWhile_map, tested, List.length_map]
  split <;> rfl

theorem dropPrefix?_map {letters : List Char} (own : ∀ e ∈ letters, ∀ c, change c = e ↔ c = e)
    (text : List Char) :
    dropPrefix? letters (text.map change) = (dropPrefix? letters text).map (List.map change) := by
  induction letters generalizing text with
  | nil => rfl
  | cons e letters ih =>
    obtain ⟨first, others⟩ := List.forall_mem_cons.mp own
    cases text with
    | nil => rfl
    | cons c text =>
      rw [List.map_cons, dropPrefix?, dropPrefix?, ih others]
      simp only [first]
      split <;> rfl

/-- A text that is taken has characters that nothing else is replaced by. -/
theorem readsAlike_literal {expected : String}
    (own : ∀ e ∈ expected.toList, ∀ c, change c = e ↔ c = e) :
    ReadsAlike change id (literal expected) (literal expected) := by
  intro text
  unfold literal
  rw [dropPrefix?_map own, Option.map_map, Option.map_map]
  rfl

theorem ReadsAlike.bind {changeMiddle : α → β} {changeValue : γ → δ} {first : Reader α}
    {first' : Reader β} {second : α → Reader γ} {second' : β → Reader δ}
    (alike : ReadsAlike change changeMiddle first first')
    (alike' : ∀ middle, ReadsAlike change changeValue (second middle)
      (second' (changeMiddle middle))) :
    ReadsAlike change changeValue (first >>= second) (first' >>= second') := by
  intro text
  show (first' (text.map change)).bind _ = ((first text).bind _).map _
  rw [alike text]
  cases first text with
  | none => rfl
  | some read => exact alike' read.1 read.2

/-! ### Scans -/

variable {changeValue : α → β} {reader : Reader α} {reader' : Reader β}
  (alike : ReadsAlike change changeValue reader reader')
include alike

theorem map_value_matchesFrom_map (before before' : List Char) (skip : Nat) (text : List Char) :
    (matchesFrom (fun _ => reader') before' skip (text.map change)).map Match.value =
      ((matchesFrom (fun _ => reader) before skip text).map Match.value).map changeValue := by
  induction text generalizing before before' skip with
  | nil => rfl
  | cons c rest ih =>
    cases skip with
    | succ skip => exact ih _ _ _
    | zero =>
      have read := alike (c :: rest)
      rw [List.map_cons] at read ⊢
      rw [matchesFrom, matchesFrom, read]
      cases reader (c :: rest) with
      | none => exact ih _ _ _
      | some result =>
        -- What is taken has the same length in both texts.
        obtain ⟨value, after⟩ := result
        simp only [Option.map_some, Prod.map_apply, List.length_map, List.map_cons]
        exact congrArg (_ :: ·) (ih _ _ _)

/-- **What a pattern finds in a text whose characters are replaced** is what it finds in the text,
replaced. -/
theorem found_map (text : List Char) :
    found reader' (text.map change) = (found reader text).map changeValue :=
  map_value_matchesFrom_map alike [] [] 0 text

end Readers

end CodeBrief.Pattern
