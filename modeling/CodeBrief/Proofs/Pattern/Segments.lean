/-
**Scanning piece by piece.**

Some readers cannot get past a character: they read up to it as they read up to the end of a text.
The matches of such a reader in a text are its matches in the pieces between these characters, one
piece after another.

* `StopsAt` — a reader cannot get past a character; `stopsAt_literal`, `stopsAt_runOf` and
  `StopsAt.bind` build such readers up.
* `found_eq_singleton` — a text that is read as a whole is the one match in it.
* `found_append` — the matches before a character and those after it.
* `found_eq_flatMap_pieces` — the matches in a text, from the pieces.
-/

import CodeBrief.Pattern.Scan
import CodeBrief.Proofs.Text.Pieces
import Mathlib.Data.List.TakeWhile

namespace CodeBrief.Pattern

/-! ### Readers -/

/-- A reader reads up to `stop` as it reads up to the end of a text. -/
def StopsAt {α : Type} (reader : Reader α) (stop : Char) : Prop :=
  ∀ left right, reader (left ++ stop :: right) =
    (reader left).map fun (value, after) => (value, after ++ stop :: right)

section Readers

variable {α β : Type} {stop : Char}

theorem stopsAt_pure (value : α) : StopsAt (pure value) stop := fun _ _ => rfl

theorem dropPrefix?_append {expected : List Char} (absent : stop ∉ expected)
    (left right : List Char) :
    dropPrefix? expected (left ++ stop :: right) =
      (dropPrefix? expected left).map (· ++ stop :: right) := by
  induction expected generalizing left with
  | nil => rfl
  | cons e expected ih =>
    rw [List.mem_cons, not_or] at absent
    obtain ⟨different, absent⟩ := absent
    cases left with
    | nil => simp [dropPrefix?, different]
    | cons c left =>
      simp only [List.cons_append, dropPrefix?]
      split
      · exact ih absent left
      · rfl

theorem stopsAt_literal {expected : String} (absent : stop ∉ expected.toList) :
    StopsAt (literal expected) stop := by
  intro left right
  simp only [literal, dropPrefix?_append absent, Option.map_map]
  rfl

theorem stopsAt_runOf (least : Nat) {test : Char → Bool} (fails : test stop = false) :
    StopsAt (runOf least test) stop := by
  intro left right
  have taken : (left ++ stop :: right).takeWhile test = left.takeWhile test := by
    rw [List.takeWhile_append]
    split
    · rename_i all
      rw [List.takeWhile_cons_of_neg (by simp [fails]), List.append_nil]
      exact ((List.takeWhile_prefix test).eq_of_length all).symm
    · rfl
  have rest : (left ++ stop :: right).dropWhile test = left.dropWhile test ++ stop :: right := by
    rw [List.dropWhile_append]
    split
    · rename_i all
      rw [List.isEmpty_iff.mp all, List.dropWhile_cons_of_neg (by simp [fails]), List.nil_append]
    · rfl
  simp only [runOf, taken, rest]
  split <;> rfl

theorem StopsAt.bind {first : Reader α} {second : α → Reader β} (stops : StopsAt first stop)
    (stops' : ∀ value, StopsAt (second value) stop) : StopsAt (first >>= second) stop := by
  intro left right
  show (first (left ++ stop :: right)).bind (fun read => second read.1 read.2) =
    ((first left).bind fun read => second read.1 read.2).map _
  rw [stops left right]
  cases first left with
  | none => rfl
  | some read => exact stops' read.1 read.2 right

end Readers

/-! ### Matches -/

theorem matchesFrom_skipAll {α : Type} (find : Finder α) (before text : List Char) :
    matchesFrom find before text.length text = [] := by
  induction text generalizing before with
  | nil => rfl
  | cons c rest ih => exact ih (c :: before)

/-- What a reader takes as a whole is found in it, and nothing else. -/
theorem found_eq_singleton {α : Type} {reader : Reader α} {text : List Char} {value : α}
    (nonempty : text ≠ []) (read : reader text = some (value, [])) : found reader text = [value] := by
  cases text with
  | nil => exact absurd rfl nonempty
  | cons c rest =>
    simp only [found, allMatches, matchesFrom, read, List.length_nil, Nat.sub_zero,
      matchesFrom_skipAll, List.map_cons, List.map_nil]

section Matches

variable {α : Type} {reader : Reader α} {stop : Char}

/-- What a reader takes does not depend on the text before its place. -/
theorem map_value_matchesFrom (before before' : List Char) (skip : Nat) (text : List Char) :
    (matchesFrom (fun _ => reader) before skip text).map Match.value =
      (matchesFrom (fun _ => reader) before' skip text).map Match.value := by
  induction text generalizing before before' skip with
  | nil => simp [matchesFrom]
  | cons c rest ih =>
    cases skip with
    | succ skip => exact ih _ _ _
    | zero =>
      simp only [matchesFrom]
      split
      · exact congrArg (_ :: ·) (ih _ _ _)
      · exact ih _ _ _

variable (stops : StopsAt reader stop) (needs : reader [] = none)
include stops needs

theorem map_value_matchesFrom_append (before : List Char) {skip : Nat} {left : List Char}
    (short : skip ≤ left.length) (right : List Char) :
    (matchesFrom (fun _ => reader) before skip (left ++ stop :: right)).map Match.value =
      (matchesFrom (fun _ => reader) before skip left).map Match.value ++ found reader right := by
  induction left generalizing before skip with
  | nil =>
    obtain rfl : skip = 0 := Nat.le_zero.mp short
    have blocked : reader (stop :: right) = none := by
      rw [← List.nil_append (stop :: right), stops, needs]
      rfl
    simp only [List.nil_append, matchesFrom, blocked]
    exact map_value_matchesFrom _ _ _ _
  | cons c left ih =>
    cases skip with
    | succ skip => exact ih _ (Nat.le_of_succ_le_succ short)
    | zero =>
      have whole := stops (c :: left) right
      rw [List.cons_append] at whole
      simp only [List.cons_append, matchesFrom, whole]
      cases reader (c :: left) with
      | none => exact ih _ (Nat.zero_le _)
      | some read =>
        -- The match has the same length, as it ends before the character in both texts.
        have length : (left ++ stop :: right).length - (read.2 ++ stop :: right).length =
            left.length - read.2.length := by
          simp only [List.length_append]
          omega
        simp only [Option.map_some, length, List.map_cons, List.cons_append]
        exact congrArg (_ :: ·) (ih _ (Nat.sub_le _ _))

/-- **What is found before a character and after it** is found in the two texts. -/
theorem found_append (left right : List Char) :
    found reader (left ++ stop :: right) = found reader left ++ found reader right :=
  map_value_matchesFrom_append stops needs [] (Nat.zero_le _) right

end Matches

/-- **What is found in a text is found in its pieces** between characters that the reader cannot get
past. -/
theorem found_eq_flatMap_pieces {α : Type} {reader : Reader α} {separates : Char → Bool}
    (stops : ∀ c, separates c = true → StopsAt reader c) (needs : reader [] = none)
    (text : List Char) :
    found reader text = (Text.pieces separates text).flatMap (found reader) := by
  have first := List.takeWhile_append_dropWhile (p := fun c => !separates c) (l := text)
  have free : ∀ c ∈ text.takeWhile fun c => !separates c, separates c = false := by
    intro c member
    simpa using List.mem_takeWhile_imp member
  have single : Text.pieces separates (text.takeWhile fun c => !separates c) =
      [text.takeWhile fun c => !separates c] := Text.pieces_of_free free
  cases rest : text.dropWhile fun c => !separates c with
  | nil =>
    rw [rest, List.append_nil] at first
    rw [← first, single, List.flatMap_singleton]
  | cons c rest' =>
    have separator : separates c = true := by
      have head := List.head_dropWhile_not (fun c => !separates c) (l := text) (by simp [rest])
      simpa [rest] using head
    have shorter : rest'.length < text.length := by
      rw [← first, rest]
      simp
      omega
    rw [← first, rest, found_append (stops c separator) needs, Text.pieces_append separator, single,
      List.flatMap_append, List.flatMap_singleton, ← found_eq_flatMap_pieces stops needs rest']
termination_by text.length

end CodeBrief.Pattern
