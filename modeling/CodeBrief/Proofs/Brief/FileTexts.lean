/-
**Steps that change the texts of files.**

Two steps change the text of every file out of which nothing has been cut, and leave all other files
as they are. What such a step does to a brief is told by what it does to one text.

* `SelectedFile.Rewritten` — that a file is another one whose text has been changed in a given way.
* `Brief.rewritten_changeTexts` — every file of a brief after such a step.
* `Brief.changeTexts_twice_iff` — taking such a step twice is no more than taking it once if this is
  so for every text that it changes.
-/

import CodeBrief.Brief.Compression
import Mathlib.Data.List.Forall2

namespace CodeBrief

/-- The second file is the first one with a text that `related` relates to its own; a file out of
which something has been cut is the same. -/
structure SelectedFile.Rewritten (related : List Char → List Char → Prop)
    (file changed : SelectedFile) : Prop where
  /-- A file out of which something has been cut is left alone. -/
  cut : file.summarized = true → changed = file
  /-- Any other file has another text and is otherwise the same. -/
  whole : file.summarized = false → changed = { file with content := changed.content } ∧
    related file.content.toList changed.content.toList

section Change

variable {change : List Char → List Char}

theorem SelectedFile.changeText_of_whole {file : SelectedFile} (whole : file.summarized = false) :
    file.changeText change = { file with content := String.ofList (change file.content.toList) } :=
  if_neg (by simp [whole])

theorem SelectedFile.changeText_of_cut {file : SelectedFile} (cut : file.summarized = true) :
    file.changeText change = file :=
  if_pos cut

theorem SelectedFile.rewritten_changeText {related : List Char → List Char → Prop}
    (relates : ∀ text, related text (change text)) (file : SelectedFile) :
    file.Rewritten related (file.changeText change) where
  cut cut := changeText_of_cut cut
  whole whole := by
    rw [changeText_of_whole whole]
    refine ⟨rfl, ?_⟩
    rw [String.toList_ofList]
    exact relates file.content.toList

/-- Changing the text of a file twice does no more than changing it once if this is so for its
text. -/
theorem SelectedFile.changeText_twice_iff (file : SelectedFile) :
    (file.changeText change).changeText change = file.changeText change ↔
      (file.summarized = false →
        change (change file.content.toList) = change file.content.toList) := by
  cases flag : file.summarized with
  | true => simp [changeText_of_cut flag]
  | false =>
    -- The changed file is as whole as the one before.
    rw [changeText_of_whole flag, changeText_of_whole (by exact flag)]
    simp [String.toList_ofList, String.ofList_inj]

namespace Brief

/-- **Every file after a step that changes texts.** -/
theorem rewritten_changeTexts {related : List Char → List Char → Prop}
    (relates : ∀ text, related text (change text)) (files : List SelectedFile) :
    List.Forall₂ (SelectedFile.Rewritten related) files
      (files.map (SelectedFile.changeText change)) :=
  List.forall₂_map_right_iff.mpr
    (List.forall₂_same.mpr fun file _ => file.rewritten_changeText relates)

/-- **A step that changes texts, taken twice.** -/
theorem changeTexts_twice_iff (files : List SelectedFile) :
    (files.map (SelectedFile.changeText change)).map (SelectedFile.changeText change) =
        files.map (SelectedFile.changeText change) ↔
      ∀ file ∈ files, file.summarized = false →
        change (change file.content.toList) = change file.content.toList := by
  rw [List.map_map, List.map_inj_left]
  exact forall₂_congr fun file _ => file.changeText_twice_iff

end Brief

end Change

end CodeBrief
