/-
**Which files stay when the least relevant ones are dropped.**

The files are ranked by their relevance, ties in the order in which they stand, and the first three
fifths of the ranking are kept, rounded down. What is known about files that are dropped goes with
them.

* `isRanking_byRelevance` — the order in which the files are ranked.
* `KeepsBest` — what it means for a brief to have kept the best files of another one.
* `dropFiles_keepsBest` — the step does that; `not_restricts_noFiles` — a brief without files keeps
  what it knows about others.
-/

import CodeBrief.Brief.Compression
import CodeBrief.Proofs.Ranking

namespace CodeBrief.Brief

/-- Files from the highest relevance down, ties as they stand. -/
def byRelevance (files : List SelectedFile) : List SelectedFile :=
  sortBy (fun left right => right.relevance ≤ left.relevance) files

theorem isRanking_byRelevance (files : List SelectedFile) :
    IsRanking SelectedFile.relevance files (byRelevance files) :=
  isRanking_sortBy SelectedFile.relevance files

theorem byRelevance_eq_self {files : List SelectedFile}
    (descending : files.Pairwise fun left right => right.relevance ≤ left.relevance) :
    byRelevance files = files :=
  sortBy_eq_self (descending.imp fun le => decide_eq_true le)

theorem dropFiles_of_noFiles {brief : Brief} (none : brief.files = []) :
    brief.dropFiles = brief := by
  unfold dropFiles
  rw [none]
  rfl

/-- The files that are kept are the first ones of the ranking. -/
theorem files_dropFiles (brief : Brief) :
    brief.dropFiles.files = (byRelevance brief.files).take (3 * brief.files.length / 5) := by
  by_cases none : brief.files = []
  · rw [dropFiles_of_noFiles none, none]
    rfl
  · unfold dropFiles
    rw [if_neg (by simpa using none)]
    rfl

theorem dependencies_dropFiles {brief : Brief} (some : brief.files ≠ []) :
    brief.dropFiles.dependencies.entries = brief.dependencies.entries.filter fun entry =>
      (brief.dropFiles.files.map SelectedFile.path).contains entry.1 := by
  unfold dropFiles
  rw [if_neg (by simpa using some)]
  rfl

/-- `after` has the best three fifths of the files of `before`. Where two files are told to stand in
some order, this is the order of two different places if no two files have one path. -/
structure KeepsBest (before after : Brief) : Prop where
  /-- Three fifths of the files are kept, rounded down. -/
  count : after.files.length = 3 * before.files.length / 5
  /-- They are files of before, each at most as often. -/
  files : after.files.Subperm before.files
  /-- No file is more relevant than an earlier one. -/
  descending : after.files.Pairwise fun left right => right.relevance ≤ left.relevance
  /-- Files of one relevance stand as they stood before. -/
  ties : ∀ left right, left.relevance = right.relevance →
    [left, right].Sublist after.files → [left, right].Sublist before.files
  /-- A file that is dropped is less relevant than every file that is kept, or it is as relevant and
  stood behind it. -/
  best : ∀ kept ∈ after.files, ∀ dropped ∈ before.files, dropped ∉ after.files →
    dropped.relevance < kept.relevance ∨
      dropped.relevance = kept.relevance ∧ [kept, dropped].Sublist before.files
  /-- If there were files, what is known is known of files that are kept, in the old order. -/
  dependencies : before.files ≠ [] →
    after.dependencies.entries = before.dependencies.entries.filter fun entry =>
      (after.files.map SelectedFile.path).contains entry.1
  /-- If there were none, nothing has changed. -/
  noFiles : before.files = [] → after = before
  /-- Files that stood in order are kept from the front. -/
  initial : (before.files.Pairwise fun left right => right.relevance ≤ left.relevance) →
    after.files <+: before.files
  /-- Nothing else has changed. -/
  frame : after = { before with files := after.files, dependencies := after.dependencies }

/-- **Dropping the least relevant files keeps the best ones,** and what is known about them. -/
theorem dropFiles_keepsBest (brief : Brief) : KeepsBest brief brief.dropFiles where
  count := by
    rw [files_dropFiles, List.length_take, (isRanking_byRelevance brief.files).perm.length_eq]
    omega
  files := by
    rw [files_dropFiles]
    exact (List.take_sublist _ _).subperm.trans (isRanking_byRelevance brief.files).perm.subperm
  descending := by
    rw [files_dropFiles]
    exact (isRanking_byRelevance brief.files).descending.sublist (List.take_sublist _ _)
  ties left right tie pair := by
    rw [files_dropFiles] at pair
    exact (isRanking_byRelevance brief.files).pair_sublist_items
      (pair.trans (List.take_sublist _ _)) tie
  best kept isKept dropped member isDropped := by
    rw [files_dropFiles] at isKept isDropped
    exact (isRanking_byRelevance brief.files).lower_or_later isKept member isDropped
  dependencies some := dependencies_dropFiles some
  noFiles none := dropFiles_of_noFiles none
  initial descending := by
    rw [files_dropFiles, byRelevance_eq_self descending]
    exact List.take_prefix _ _
  frame := by
    unfold dropFiles
    split <;> rfl

/-- A brief without files keeps what it knows about others: there is nothing to drop, and so nothing
is done. -/
theorem not_restricts_noFiles :
    let brief : Brief := { dependencies := .ofList [("a.js", { imports := ["./b"] })] }
    (brief.files.map SelectedFile.path).Nodup ∧
      brief.dropFiles.dependencies.entries ≠ brief.dependencies.entries.filter fun entry =>
        (brief.dropFiles.files.map SelectedFile.path).contains entry.1 := by
  decide +kernel

end CodeBrief.Brief
