/-
**What a selection takes.**

A selection stays within its budget unless a file has been cut down for it. Such a file brings its
marker on top of all that was left, so that nothing is taken after it.

* `Selection.tokens` — the tokens of what has been selected.
* `choose_accounts` — the tokens used are those, and how far they may exceed the budget.
-/

import CodeBrief.Proofs.Selection.Admission
import Mathlib

namespace CodeBrief.Selection

/-- The tokens of what has been selected: the files as they are, the functions and the classes. -/
def tokens (selection : Selection) : Nat :=
  (selection.files.map fun file => tokensOf file.content.toList).sum +
    (selection.functions.map fun record => recordTokens record.toJson).sum +
    (selection.classes.map fun record => recordTokens record.toJson).sum

/-- The tokens of a log, kind by kind. -/
theorem spent_eq (log : List (String × Admission)) :
    spent log =
      ((log.filterMap fun entry => entry.2.file?).map
        fun file => tokensOf file.content.toList).sum +
      ((log.filterMap fun entry => entry.2.function?).map
        fun record => recordTokens record.toJson).sum +
      ((log.filterMap fun entry => entry.2.class?).map
        fun record => recordTokens record.toJson).sum := by
  induction log with
  | nil => rfl
  | cons entry rest ih =>
    obtain ⟨key, admission⟩ := entry
    rw [spent_cons, ih]
    cases admission <;>
      simp only [Admission.tokens, Admission.file?, Admission.function?, Admission.class?,
        List.filterMap_cons, List.map_cons, List.sum_cons] <;>
      omega

/-- The tokens of a selection are those of its log. -/
theorem tokens_choose (index : Index) (scores : List (String × Int)) (budget : Int) :
    (choose index scores budget).tokens = spent (log index scores budget) := by
  rw [choose_eq, spent_eq]
  rfl

/-- Four characters make a token. -/
theorem tokensOfLength_eq (length : Nat) : tokensOfLength length = length ⌈/⌉ 4 := rfl

/-- **What is taken last is added to what has been selected before its turn.** -/
theorem choose_of_log_append {index : Index} {scores : List (String × Int)} {budget : Int}
    {earlier : List (String × Admission)} {key : String} {file : SelectedFile}
    (run : log index scores budget = earlier ++ [(key, .file file)]) :
    ∃ above below, ranked scores = above ++ (key, file.relevance) :: below ∧
      choose index scores budget =
        (offerAll index { tokenBudget := budget } above).addFile file := by
  obtain ⟨above, score, below, order, before, turn⟩ := admissions_split index budget run
  rw [← relevance_of_admission? turn] at order
  have chosen : choose index scores budget =
      (log index scores budget).foldl (fun sofar entry => sofar.accept entry.2)
        { tokenBudget := budget } := offerAll_eq_foldl _ _ _
  have offered : offerAll index { tokenBudget := budget } above =
      earlier.foldl (fun sofar entry => sofar.accept entry.2) { tokenBudget := budget } := by
    rw [offerAll_eq_foldl, ← before]
  refine ⟨above, below, order, ?_⟩
  rw [chosen, run, offered, List.foldl_append]
  rfl

/-- **What a selection takes**, whatever the index, the scores and the working budget. The tokens
used are those of the files as they are, of the functions and of the classes. At most one file is
cut down. If there is none, the tokens used are within the budget; if there is one, the selection is
what had been selected from the items ranked above the file, with the file added to it, and the
tokens used are those of the budget and of the marker. -/
theorem choose_accounts (index : Index) (scores : List (String × Int)) (budget : Int) :
    (choose index scores budget).tokensUsed = (choose index scores budget).tokens ∧
      ((choose index scores budget).files.filter SelectedFile.summarized).length ≤ 1 ∧
      ((∀ file ∈ (choose index scores budget).files, file.summarized = false) →
        (choose index scores budget).tokensUsed ≤ max budget 0) ∧
      ∀ file ∈ (choose index scores budget).files, file.summarized = true →
        (∃ above below, ranked scores = above ++ (file.path, file.relevance) :: below ∧
          choose index scores budget =
            (offerAll index { tokenBudget := budget } above).addFile file) ∧
        ∃ content head middle tail, index.files.get? file.path = some content ∧
          content.toList = head ++ middle ++ tail ∧
          file.content.toList = head ++ omissionMarker middle.length ++ tail ∧
          (choose index scores budget).tokensUsed =
            budget + ((33 + (Nat.digits 10 middle.length).length) ⌈/⌉ 4 : Nat) := by
  obtain ⟨whole, last, run, uncut, within, ending⟩ :=
    admissions_shape index budget 0 (ranked scores)
  have used : (choose index scores budget).tokensUsed = spent (whole ++ last) := by
    rw [choose_eq, log, run]
  have files : (choose index scores budget).files =
      (whole.filterMap fun entry => entry.2.file?) ++
        last.filterMap fun entry => entry.2.file? := by
    rw [choose_eq, log, run, List.filterMap_append]
  have summarized : (choose index scores budget).files.filter SelectedFile.summarized =
      (last.filterMap fun entry => entry.2.file?).filter SelectedFile.summarized := by
    have before :
        (whole.filterMap fun entry => entry.2.file?).filter SelectedFile.summarized = [] :=
      List.filter_eq_nil_iff.mpr (by simpa using summarized_of_uncut uncut)
    rw [files, List.filter_append, before, List.nil_append]
  refine ⟨by rw [tokens_choose, used, log, run], ?_⟩
  rcases ending with rfl | ⟨⟨key, admission⟩, rfl, content, score, found, room, long, same⟩
  · -- No file is cut down.
    have none : (choose index scores budget).files.filter SelectedFile.summarized = [] := summarized
    refine ⟨by rw [none]; exact Nat.zero_le 1, fun _ => ?_, fun file member cut => ?_⟩
    · rw [used, List.append_nil]
      omega
    · exact absurd cut (List.filter_eq_nil_iff.mp none file member)
  · -- The last file is cut down.
    dsimp only at found same
    subst same
    have one : (choose index scores budget).files.filter SelectedFile.summarized =
        [⟨key, summarize content (budget - (0 + spent whole)), score, true⟩] := summarized
    refine ⟨by rw [one]; exact Nat.le_refl 1, fun none => ?_, fun file member cut => ?_⟩
    · have inside : _ ∈ (choose index scores budget).files :=
        (List.mem_filter.mp (one ▸ List.mem_singleton_self _)).1
      cases none _ inside
    · have member : file ∈ (choose index scores budget).files.filter SelectedFile.summarized :=
        List.mem_filter.mpr ⟨member, cut⟩
      rw [one, List.mem_singleton] at member
      subst member
      obtain ⟨head, middle, tail, parts, marked, tokens⟩ :=
        tokensOf_summarizeChars (Int.le_of_lt room) long
      refine ⟨choose_of_log_append run, content, head, middle, tail, found, parts, ?_, ?_⟩
      · rw [summarize, String.toList_ofList, marked]
      · rw [used, spent_append, spent_cons, spent_nil]
        simp only [Admission.tokens, summarize, String.toList_ofList, ← tokensOfLength_eq]
        omega

end CodeBrief.Selection
