/-
**What replacing does to the weight of a text.**

Every character has a weight, such as the number of characters that spell it elsewhere. If no match
of a pattern weighs less than what takes its place, then replacing all matches does not make a text
heavier.

* `Takes` — a reader leaves the end of a text and takes a piece in front of it that has some
  property; `takes_literal`, `takes_run`, `takes_runOf` and `Takes.bind` build such readers up.
* `textWeight_replaceAll_le` — the weight of a text after replacing.
-/

import CodeBrief.Pattern.Scan
import Mathlib.Algebra.Order.BigOperators.Group.List
import Mathlib.Algebra.Ring.Nat
import Mathlib.Data.List.TakeWhile

namespace CodeBrief.Pattern

/-! ### What readers take -/

/-- Whatever a reader takes from the head of a text satisfies `holds`. -/
def Takes {α : Type} (reader : Reader α) (holds : List Char → Prop) : Prop :=
  ∀ text value after, reader text = some (value, after) →
    ∃ taken, text = taken ++ after ∧ holds taken

/-- What is left of a text behind a prefix. -/
theorem dropPrefix?_eq_some {expected text rest : List Char} :
    dropPrefix? expected text = some rest ↔ text = expected ++ rest := by
  induction expected generalizing text with
  | nil =>
    rw [List.nil_append]
    exact Option.some_inj
  | cons e expected ih =>
    cases text with
    | nil => exact ⟨fun dropped => (by cases dropped), fun same => (by cases same)⟩
    | cons c text =>
      unfold dropPrefix?
      split
      · rename_i same
        rw [ih, same, List.cons_append, List.cons_inj_right]
      · rename_i different
        refine ⟨fun dropped => (by cases dropped), fun same => absurd ?_ different⟩
        exact (List.cons.inj same).1

/-- A literal takes itself. -/
theorem takes_literal (expected : String) : Takes (literal expected) (· = expected.toList) := by
  intro text value after taken
  obtain ⟨rest, dropped, same⟩ := Option.map_eq_some_iff.mp taken
  cases same
  exact ⟨_, dropPrefix?_eq_some.mp dropped, rfl⟩

/-- A run takes characters that satisfy its test. -/
theorem takes_run (test : Char → Bool) : Takes (run test) (fun taken => ∀ c ∈ taken, test c) := by
  intro text value after taken
  cases taken
  exact ⟨_, List.takeWhile_append_dropWhile.symm, fun c member => List.mem_takeWhile_imp member⟩

/-- A run of at least `least` characters takes that many characters that satisfy its test. -/
theorem takes_runOf (least : Nat) (test : Char → Bool) :
    Takes (runOf least test) (fun taken => least ≤ taken.length ∧ ∀ c ∈ taken, test c) := by
  intro text value after taken
  unfold runOf at taken
  dsimp only at taken
  split at taken
  · cases taken
  · rename_i enough
    cases taken
    exact ⟨_, List.takeWhile_append_dropWhile.symm, Nat.not_lt.mp enough,
      fun c member => List.mem_takeWhile_imp member⟩

/-- What only gives a value takes nothing. -/
theorem takes_pure {α : Type} (value : α) : Takes (pure value) (· = []) := by
  intro text _ after taken
  cases taken
  exact ⟨[], rfl, rfl⟩

/-- One reader after another takes one piece after another. -/
theorem Takes.bind {α β : Type} {first : Reader α} {second : α → Reader β}
    {holds holds' : List Char → Prop} (takes : Takes first holds)
    (takes' : ∀ value, Takes (second value) holds') :
    Takes (first >>= second) (fun taken => ∃ left right, taken = left ++ right ∧ holds left ∧
      holds' right) := by
  intro text value after taken
  obtain ⟨⟨middle, rest⟩, firstTaken, secondTaken⟩ := Option.bind_eq_some_iff.mp taken
  obtain ⟨left, same, leftHolds⟩ := takes _ _ _ firstTaken
  obtain ⟨right, same', rightHolds⟩ := takes' middle _ _ _ secondTaken
  exact ⟨left ++ right, by rw [same, same', List.append_assoc], left, right, rfl, leftHolds,
    rightHolds⟩

theorem Takes.mono {α : Type} {reader : Reader α} {holds holds' : List Char → Prop}
    (takes : Takes reader holds) (weaker : ∀ taken, holds taken → holds' taken) :
    Takes reader holds' := by
  intro text value after taken
  obtain ⟨piece, same, pieceHolds⟩ := takes _ _ _ taken
  exact ⟨piece, same, weaker piece pieceHolds⟩

/-! ### Weights -/

section Weight

variable (weight : Char → Nat)

/-- The weight of a text. -/
def textWeight (text : List Char) : Nat :=
  (text.map weight).sum

@[simp] theorem textWeight_nil : textWeight weight [] = 0 := rfl

@[simp] theorem textWeight_cons (c : Char) (text : List Char) :
    textWeight weight (c :: text) = weight c + textWeight weight text := by
  unfold textWeight
  rw [List.map_cons, List.sum_cons]

@[simp] theorem textWeight_append (left right : List Char) :
    textWeight weight (left ++ right) = textWeight weight left + textWeight weight right := by
  unfold textWeight
  rw [List.map_append, List.sum_append]

/-- **Replacing does not make a text heavier** if no match weighs less than the replacement. -/
theorem textWeight_replaceFrom_le {reader : Reader Unit} {replacement : List Char}
    (light : Takes reader fun taken => textWeight weight replacement ≤ textWeight weight taken)
    (skip : Nat) (text : List Char) :
    textWeight weight (replaceFrom reader replacement skip text) ≤
      textWeight weight (text.drop skip) := by
  induction text generalizing skip with
  | nil => simp [replaceFrom]
  | cons c rest ih =>
    cases skip with
    | succ skip => exact ih skip
    | zero =>
      unfold replaceFrom
      split
      · rename_i value after matched
        obtain ⟨taken, same, heavy⟩ := light _ _ _ matched
        have later := ih (rest.length - after.length)
        have whole : textWeight weight (c :: rest) =
            textWeight weight taken + textWeight weight after := by
          rw [same, textWeight_append]
        -- The scan goes on right after the match, or after one character if the match is empty.
        have left : textWeight weight (rest.drop (rest.length - after.length)) ≤
            textWeight weight after := by
          cases taken with
          | nil =>
            rw [List.nil_append] at same
            simp [← same]
          | cons d taken =>
            rw [List.cons_append, List.cons.injEq] at same
            simp [same.2]
        rw [textWeight_append, List.drop_zero, whole]
        omega
      · have later := ih 0
        simp only [textWeight_cons, List.drop_zero] at later ⊢
        omega

theorem textWeight_replaceAll_le {reader : Reader Unit} {replacement : List Char}
    (light : Takes reader fun taken => textWeight weight replacement ≤ textWeight weight taken)
    (text : List Char) :
    textWeight weight (replaceAll reader replacement text) ≤ textWeight weight text :=
  textWeight_replaceFrom_le weight light 0 text

end Weight

end CodeBrief.Pattern
