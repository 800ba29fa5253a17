/-
**Pieces between separators.**

* `pieces_append` — a text with a separator in it has the pieces of its two sides.
* `intercalate_pieces`, `pieces_intercalate` — dividing a text at a separator and putting the pieces
  together again undo each other.
* `exists_piece_of_mem`, `not_separates_of_mem_pieces` — the characters of a text separate or stand
  in pieces, and not both.
* `subset_of_mem_pieces` — pieces have no characters but those of the text.
* `exists_getElem?_pieces` — the piece behind so many separators.
* `countP_pieces_le` — pieces that are not empty take a character each.
* `commaText` — texts with a comma and a space between them.
-/

import CodeBrief.Text.Blank
import Mathlib.Data.List.Basic
import Mathlib.Data.List.Induction

namespace CodeBrief.Text

theorem pieces_eq_splitOnP (separates : Char → Bool) (text : List Char) :
    pieces separates text = text.splitOnP separates := by
  induction text with
  | nil => rfl
  | cons c rest ih =>
    obtain ⟨head, tail, same⟩ := List.exists_cons_of_ne_nil (List.splitOnP_ne_nil separates rest)
    rw [List.splitOnP_cons_eq_if_modifyHead, pieces, ih, same]
    rfl

/-- **Pieces split at a separator.** -/
theorem pieces_append {separates : Char → Bool} {c : Char} (separator : separates c = true)
    (left right : List Char) :
    pieces separates (left ++ c :: right) = pieces separates left ++ pieces separates right := by
  simp only [pieces_eq_splitOnP, List.splitOnP_append_cons _ _ separator]

/-- The pieces of a text put together. -/
theorem intercalate_pieces (separator : Char) (text : List Char) :
    [separator].intercalate (pieces (· == separator) text) = text := by
  rw [pieces_eq_splitOnP]
  exact List.intercalate_splitOn separator

/-- The pieces of texts without separators that are put together. -/
theorem pieces_intercalate {separator : Char} {parts : List (List Char)}
    (free : ∀ part ∈ parts, separator ∉ part) (nonempty : parts ≠ []) :
    pieces (· == separator) ([separator].intercalate parts) = parts := by
  rw [pieces_eq_splitOnP]
  exact List.splitOn_intercalate separator free nonempty

/-- A text without separators is one piece. -/
theorem pieces_of_free {separates : Char → Bool} {text : List Char}
    (free : ∀ c ∈ text, separates c = false) : pieces separates text = [text] := by
  rw [pieces_eq_splitOnP, List.splitOnP_eq_singleton free]

/-- Every character separates or stands in a piece. -/
theorem exists_piece_of_mem {separates : Char → Bool} {text : List Char} {c : Char}
    (member : c ∈ text) :
    separates c = true ∨ ∃ piece ∈ pieces separates text, c ∈ piece := by
  by_cases separator : separates c = true
  · exact Or.inl separator
  · refine Or.inr ?_
    induction text with
    | nil => cases member
    | cons d rest ih =>
      cases parts : pieces separates rest with
      | nil => rw [pieces_eq_splitOnP] at parts; exact absurd parts (List.splitOnP_ne_nil _ _)
      | cons head tail =>
        rw [parts] at ih
        simp only [pieces, parts]
        rcases List.mem_cons.mp member with rfl | inside
        · simp [separator]
        · obtain ⟨piece, within, holds⟩ := ih inside
          split
          · exact ⟨piece, List.mem_cons_of_mem _ within, holds⟩
          · rcases List.mem_cons.mp within with rfl | later
            · exact ⟨d :: piece, List.mem_cons_self, List.mem_cons_of_mem _ holds⟩
            · exact ⟨piece, List.mem_cons_of_mem _ later, holds⟩

/-- No piece has a separator in it. -/
theorem not_separates_of_mem_pieces {separates : Char → Bool} {text piece : List Char}
    (member : piece ∈ pieces separates text) : ∀ c ∈ piece, separates c = false := by
  induction text generalizing piece with
  | nil =>
    rw [pieces, List.mem_singleton] at member
    simp [member]
  | cons d rest ih =>
    cases parts : pieces separates rest with
    | nil => rw [pieces_eq_splitOnP] at parts; exact absurd parts (List.splitOnP_ne_nil _ _)
    | cons head tail =>
      simp only [pieces, parts] at member
      rw [parts] at ih
      split at member
      case isTrue _ =>
        rcases List.mem_cons.mp member with rfl | member
        · simp
        · exact ih member
      case isFalse inside =>
        rcases List.mem_cons.mp member with rfl | member
        · intro c within
          rcases List.mem_cons.mp within with rfl | within
          · exact eq_false_of_ne_true inside
          · exact ih List.mem_cons_self c within
        · exact ih (List.mem_cons_of_mem head member)

/-- Pieces have no characters but those of the text. -/
theorem subset_of_mem_pieces {separates : Char → Bool} {text piece : List Char}
    (member : piece ∈ pieces separates text) : piece ⊆ text := by
  induction text generalizing piece with
  | nil =>
    rw [pieces, List.mem_singleton] at member
    rw [member]
    exact List.Subset.refl []
  | cons d rest ih =>
    cases parts : pieces separates rest with
    | nil => rw [pieces_eq_splitOnP] at parts; exact absurd parts (List.splitOnP_ne_nil _ _)
    | cons head tail =>
      simp only [pieces, parts] at member
      rw [parts] at ih
      split at member
      case isTrue _ =>
        rcases List.mem_cons.mp member with rfl | member
        · exact List.nil_subset _
        · exact List.subset_cons_of_subset d (ih member)
      case isFalse _ =>
        rcases List.mem_cons.mp member with rfl | member
        · exact List.cons_subset_cons d (ih List.mem_cons_self)
        · exact List.subset_cons_of_subset d (ih (List.mem_cons_of_mem head member))

/-! ### The piece behind some separators -/

theorem pieces_behind (separator : Char) (left right : List Char) :
    pieces (· == separator) (left ++ separator :: right) =
      pieces (· == separator) left ++ pieces (· == separator) right :=
  pieces_append (by simp) left right

theorem length_pieces (separator : Char) (text : List Char) :
    (pieces (· == separator) text).length = text.count separator + 1 := by
  induction text with
  | nil => rfl
  | cons c rest ih =>
    by_cases same : c = separator
    · subst same
      rw [← List.nil_append (c :: rest), pieces_behind, List.length_append, ih, List.nil_append,
        List.count_cons_self, Nat.add_comm]
      rfl
    · obtain ⟨head, tail, parts⟩ :=
        List.exists_cons_of_ne_nil (List.splitOnP_ne_nil (· == separator) rest)
      rw [← pieces_eq_splitOnP] at parts
      rw [List.count_cons_of_ne same, ← ih, pieces, parts]
      simp [same]

/-- The first piece goes up to the first separator. -/
theorem head?_pieces (separator : Char) (text : List Char) :
    (pieces (· == separator) text).head? = some (text.takeWhile (· != separator)) := by
  induction text with
  | nil => rfl
  | cons c rest ih =>
    obtain ⟨head, tail, parts⟩ :=
      List.exists_cons_of_ne_nil (List.splitOnP_ne_nil (· == separator) rest)
    rw [← pieces_eq_splitOnP] at parts
    rw [parts, List.head?_cons, Option.some_inj] at ih
    rw [pieces, parts]
    by_cases same : c = separator
    · simp [same]
    · simp [same, ih]

/-- **The piece that begins behind a separator**, counted by the separators before it. -/
theorem getElem?_pieces {separator : Char} {front : List Char}
    (starts : front = [] ∨ ∃ above, front = above ++ [separator]) (rest : List Char) :
    (pieces (· == separator) (front ++ rest))[front.count separator]? =
      some (rest.takeWhile (· != separator)) := by
  rcases starts with rfl | ⟨above, rfl⟩
  · rw [List.nil_append, List.count_nil, ← List.head?_eq_getElem?, head?_pieces]
  · have before : (above ++ [separator]).count separator =
        (pieces (· == separator) above).length := by
      rw [length_pieces, List.count_append, List.count_singleton_self]
    rw [List.append_assoc, List.singleton_append, pieces_behind, before,
      List.getElem?_append_right (Nat.le_refl _), Nat.sub_self, ← List.head?_eq_getElem?,
      head?_pieces]

/-- **The piece that a place of the text is in**: what stands before the place from the last
separator on, and what stands behind it up to the next one. -/
theorem exists_getElem?_pieces (separator : Char) (front rest : List Char) :
    ∃ above start, front = above ++ start ∧ separator ∉ start ∧
      (pieces (· == separator) (front ++ rest))[front.count separator]? =
        some (start ++ rest.takeWhile (· != separator)) := by
  induction front using List.reverseRecOn generalizing rest with
  | nil => exact ⟨[], [], rfl, List.not_mem_nil, getElem?_pieces (Or.inl rfl) rest⟩
  | append_singleton front c ih =>
    by_cases same : c = separator
    · subst same
      exact ⟨front ++ [c], [], (List.append_nil _).symm, List.not_mem_nil,
        getElem?_pieces (Or.inr ⟨front, rfl⟩) rest⟩
    · obtain ⟨above, start, rfl, free, piece⟩ := ih (c :: rest)
      refine ⟨above, start ++ [c], List.append_assoc _ _ _, by simp [free, Ne.symm same], ?_⟩
      have count : (above ++ start ++ [c]).count separator = (above ++ start).count separator := by
        rw [List.count_append, List.count_singleton, if_neg (by simpa using same), Nat.add_zero]
      rw [count, List.append_assoc _ [c], List.singleton_append, piece,
        List.takeWhile_cons_of_pos (by simpa using same), List.append_assoc, List.singleton_append]

/-! ### Pieces that are not empty -/

/-- Pieces that are not empty take a character each, and no separator. -/
theorem countP_pieces_le (chosen : List Char → Bool) (nonempty : chosen [] = false)
    (separates : Char → Bool) (text : List Char) :
    (pieces separates text).countP chosen ≤ text.countP fun c => !separates c := by
  induction text with
  | nil => simp [pieces, nonempty]
  | cons c rest ih =>
    obtain ⟨head, tail, parts⟩ := List.exists_cons_of_ne_nil (List.splitOnP_ne_nil separates rest)
    rw [← pieces_eq_splitOnP] at parts
    have later : tail.countP chosen ≤ (pieces separates rest).countP chosen := by
      rw [parts]
      exact (List.sublist_cons_self head tail).countP_le
    by_cases separator : separates c = true
    · simp only [pieces, parts]
      rw [if_pos separator, ← parts, List.countP_cons_of_neg (by simp [nonempty]),
        List.countP_cons_of_neg (by simp [separator])]
      exact ih
    · -- The piece that the character stands in is counted at the character.
      simp only [pieces, parts]
      rw [if_neg separator, List.countP_cons, List.countP_cons_of_pos (by simp [separator])]
      split <;> omega

/-! ### Texts with commas between them -/

/-- Texts with a comma and a space between them. -/
def commaText (items : List String) : List Char :=
  ", ".toList.intercalate (items.map String.toList)

theorem commaText_singleton (item : String) : commaText [item] = item.toList :=
  List.intercalate_singleton

theorem commaText_cons_cons (first second : String) (others : List String) :
    commaText (first :: second :: others) =
      first.toList ++ ',' :: ' ' :: commaText (second :: others) := by
  unfold commaText
  rw [List.map_cons, List.map_cons, List.intercalate_cons_cons, List.append_assoc]
  rfl

/-- The space can be taken for the beginning of the text behind it. -/
theorem commaText_cons (first : String) (others : List String) :
    commaText (first :: others) =
      [','].intercalate (first.toList :: others.map fun other => ' ' :: other.toList) := by
  induction others generalizing first with
  | nil => rw [commaText_singleton, List.map_nil, List.intercalate_singleton]
  | cons second others ih =>
    rw [commaText_cons_cons, ih, List.map_cons, List.intercalate_cons_cons,
      List.intercalate_cons_cons_left, List.append_assoc, List.singleton_append]

theorem not_mem_commaText {mark : Char} (other : mark ≠ ',' ∧ mark ≠ ' ') {items : List String}
    (absent : ∀ item ∈ items, mark ∉ item.toList) : mark ∉ commaText items := by
  induction items with
  | nil => exact List.not_mem_nil
  | cons first items ih =>
    rw [List.forall_mem_cons] at absent
    have later := ih absent.2
    cases items with
    | nil =>
      rw [commaText_singleton]
      exact absent.1
    | cons second items =>
      rw [commaText_cons_cons]
      simp [absent.1, other.1, other.2, later]

end CodeBrief.Text
