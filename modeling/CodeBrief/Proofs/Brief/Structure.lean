/-
**Making a brief smaller leaves its structure alone.**

* `FunctionRecord.Abridged`, `ClassRecord.Abridged`, `SelectedFile.Abridged` — that a function, a
  class or a file is another one with less text: with a placeholder for its body, or with a changed
  content.
* `Brief.KeepsStructure` — that two briefs differ in such texts at most, that some files may be
  missing from the second one with what is known about them, and that all else but the figures about
  the size is the same.
* `keepsStructure_apply` — what each step does is of this kind; `KeepsStructure.trans` puts steps
  together, and `keepsStructure_compressBy` says it of every list of steps and every budget.

Files may be dropped and sorted before they are changed once more, so that the files of two briefs
are compared through a list between them: some files of the first brief, in the order of the second
one.
-/

import CodeBrief.Proofs.Brief.Pipeline
import CodeBrief.Proofs.Outcome
import Mathlib.Data.List.Forall2
import Mathlib.Data.List.Perm.Subperm

namespace CodeBrief

/-! ### Lists that are related element by element -/

section Related

variable {α β : Type} {R : α → α → Prop}

theorem forall₂_trans (trans : ∀ {x y z}, R x y → R y z → R x z) {xs ys zs : List α}
    (first : List.Forall₂ R xs ys) (second : List.Forall₂ R ys zs) : List.Forall₂ R xs zs := by
  induction first generalizing zs with
  | nil => exact second
  | cons related _ ih =>
    cases second with
    | cons next rest => exact .cons (trans related next) (ih rest)

theorem forall₂_refl (refl : ∀ x, R x x) (xs : List α) : List.Forall₂ R xs xs :=
  List.forall₂_same.mpr fun x _ => refl x

theorem forall₂_map {change : α → α} (related : ∀ x, R x (change x)) (xs : List α) :
    List.Forall₂ R xs (xs.map change) :=
  List.forall₂_map_right_iff.mpr (List.forall₂_same.mpr fun x _ => related x)

/-- Some elements of a list are related to some of any list that is related to it. -/
theorem exists_subperm_forall₂ {S : α → β → Prop} {xs : List α} {ys zs : List β}
    (related : List.Forall₂ S xs ys) (some : zs.Subperm ys) :
    ∃ ws, ws.Subperm xs ∧ List.Forall₂ S ws zs := by
  obtain ⟨sorted, perm, inside⟩ := some
  obtain ⟨rest, split⟩ := inside.exists_perm_append
  have whole : ys.Perm (zs ++ rest) := split.trans (perm.append_right rest)
  -- The first list is brought into the order in which the chosen elements come first.
  have reordered : Relation.Comp List.Perm (List.Forall₂ S) xs (zs ++ rest) := by
    rw [← List.forall₂_comp_perm_eq_perm_comp_forall₂]
    exact ⟨ys, related, whole⟩
  obtain ⟨us, same, pairs⟩ := reordered
  exact ⟨us.take zs.length, (List.take_sublist _ us).subperm.trans same.symm.subperm,
    List.forall₂_take_append us zs rest pairs⟩

end Related

/-! ### Less text -/

/-- A function with perhaps another body, which is then flagged; nothing else is changed, and no flag
is taken back. -/
structure FunctionRecord.Abridged (record changed : FunctionRecord) : Prop where
  /-- Everything but the body and the flag is the same. -/
  same : changed = { record with body := changed.body, summarized := changed.summarized }
  /-- Another body is flagged. -/
  flagged : changed.body ≠ record.body → changed.summarized = true
  /-- A flag lasts. -/
  lasting : record.summarized = true → changed.summarized = true

/-- A class with perhaps another body and summary. -/
def ClassRecord.Abridged (record changed : ClassRecord) : Prop :=
  changed = { record with body := changed.body, summary := changed.summary }

/-- A file with perhaps another content, unless something has been cut out of it. -/
structure SelectedFile.Abridged (file changed : SelectedFile) : Prop where
  /-- Everything but the content is the same. -/
  same : changed = { file with content := changed.content }
  /-- A file out of which something has been cut is left as it is. -/
  uncut : file.summarized = true → changed.content = file.content

namespace FunctionRecord.Abridged

theorem refl (record : FunctionRecord) : record.Abridged record :=
  ⟨rfl, fun differs => absurd rfl differs, id⟩

theorem trans {first second third : FunctionRecord} (before : first.Abridged second)
    (after : second.Abridged third) : first.Abridged third where
  same := by
    rw [after.same, before.same]
  flagged differs := by
    by_cases kept : third.body = second.body
    · exact after.lasting (before.flagged (kept ▸ differs))
    · exact after.flagged kept
  lasting flag := after.lasting (before.lasting flag)

end FunctionRecord.Abridged

namespace ClassRecord.Abridged

theorem refl (record : ClassRecord) : record.Abridged record := rfl

theorem trans {first second third : ClassRecord} (before : first.Abridged second)
    (after : second.Abridged third) : first.Abridged third := by
  unfold Abridged at *
  rw [after, before]

end ClassRecord.Abridged

namespace SelectedFile.Abridged

theorem refl (file : SelectedFile) : file.Abridged file := ⟨rfl, fun _ => rfl⟩

/-- The flag of a file stays as it is. -/
theorem summarized_eq {file changed : SelectedFile} (abridged : file.Abridged changed) :
    changed.summarized = file.summarized := by
  rw [abridged.same]

theorem trans {first second third : SelectedFile} (before : first.Abridged second)
    (after : second.Abridged third) : first.Abridged third where
  same := by
    rw [after.same, before.same]
  uncut flag := by
    rw [after.uncut (before.summarized_eq.trans flag), before.uncut flag]

end SelectedFile.Abridged

/-! ### What steps do to records -/

theorem SelectedFile.abridged_changeText (change : List Char → List Char) (file : SelectedFile) :
    file.Abridged (file.changeText change) := by
  unfold changeText
  split
  · exact .refl file
  · rename_i whole
    exact ⟨rfl, fun flag => absurd flag whole⟩

theorem FunctionRecord.abridged_summarize (record : FunctionRecord) :
    record.Abridged record.summarize := by
  unfold summarize
  split
  · exact ⟨rfl, fun _ => rfl, fun _ => rfl⟩
  · exact .refl record

theorem ClassRecord.abridged_dropBody (record : ClassRecord) : record.Abridged record.dropBody := rfl

theorem abridged_abstractFrom (seen : List (String × String)) (records : List FunctionRecord) :
    List.Forall₂ FunctionRecord.Abridged records (abstractFrom seen records) := by
  induction records generalizing seen with
  | nil => exact .nil
  | cons record rest ih =>
    unfold abstractFrom
    split
    · exact .cons (.refl record) (ih seen)
    · split
      · exact .cons (.refl record) (ih _)
      · exact .cons ⟨rfl, fun _ => rfl, fun _ => rfl⟩ (ih seen)

/-! ### The structure of a brief -/

namespace Brief

/-- Two briefs have the same structure: the second one has less text at most, and fewer files. -/
structure KeepsStructure (brief changed : Brief) : Prop where
  /-- The query, the project, the intent, the patterns, the layout, the analysis, the memory and the
  budget are the same. -/
  frame : changed =
    { brief with
      files := changed.files
      functions := changed.functions
      classes := changed.classes
      dependencies := changed.dependencies
      estimatedTokens := changed.estimatedTokens
      overBudget := changed.overBudget
      compressionSteps := changed.compressionSteps }
  /-- The functions are the same in the same order, but for their bodies. -/
  functions : List.Forall₂ FunctionRecord.Abridged brief.functions changed.functions
  /-- The classes are the same in the same order, but for their bodies and summaries. -/
  classes : List.Forall₂ ClassRecord.Abridged brief.classes changed.classes
  /-- The files are some of the files before, each at most once, but for their contents. -/
  files : ∃ kept, kept.Subperm brief.files ∧ List.Forall₂ SelectedFile.Abridged kept changed.files
  /-- The dependencies are some of the dependencies before, in their order. -/
  dependencies : changed.dependencies.entries.Sublist brief.dependencies.entries

namespace KeepsStructure

variable {first second third : Brief}

theorem refl (brief : Brief) : brief.KeepsStructure brief where
  frame := rfl
  functions := forall₂_refl .refl brief.functions
  classes := forall₂_refl .refl brief.classes
  files := ⟨brief.files, .refl _, forall₂_refl .refl brief.files⟩
  dependencies := .refl _

theorem trans (before : first.KeepsStructure second) (after : second.KeepsStructure third) :
    first.KeepsStructure third where
  frame := by
    rw [after.frame, before.frame]
  functions := forall₂_trans .trans before.functions after.functions
  classes := forall₂_trans .trans before.classes after.classes
  files := by
    obtain ⟨kept, among, changes⟩ := before.files
    obtain ⟨left, amongThem, further⟩ := after.files
    -- The files that are left are traced back through the first change.
    obtain ⟨origins, amongKept, traced⟩ := exists_subperm_forall₂ changes amongThem
    exact ⟨origins, amongKept.trans among, forall₂_trans .trans traced further⟩
  dependencies := after.dependencies.trans before.dependencies

end KeepsStructure

/-- A step that changes files and nothing else. -/
theorem keepsStructure_of_files (brief : Brief) {files : List SelectedFile}
    (changes : List.Forall₂ SelectedFile.Abridged brief.files files) :
    brief.KeepsStructure { brief with files } :=
  { KeepsStructure.refl brief with frame := rfl, files := ⟨brief.files, .refl _, changes⟩ }

/-- A step that changes functions and nothing else. -/
theorem keepsStructure_of_functions (brief : Brief) {functions : List FunctionRecord}
    (changes : List.Forall₂ FunctionRecord.Abridged brief.functions functions) :
    brief.KeepsStructure { brief with functions } :=
  { KeepsStructure.refl brief with frame := rfl, functions := changes }

/-- A step that changes classes and nothing else. -/
theorem keepsStructure_of_classes (brief : Brief) {classes : List ClassRecord}
    (changes : List.Forall₂ ClassRecord.Abridged brief.classes classes) :
    brief.KeepsStructure { brief with classes } :=
  { KeepsStructure.refl brief with frame := rfl, classes := changes }

/-- The files that are not dropped are left as they are, and so is what is known about them. -/
theorem keepsStructure_dropFiles (brief : Brief) : brief.KeepsStructure brief.dropFiles := by
  unfold dropFiles
  split
  · exact .refl brief
  · exact
      { KeepsStructure.refl brief with
        frame := rfl
        files := ⟨_, (List.take_sublist _ _).subperm.trans (sortBy_perm _ brief.files).subperm,
          forall₂_refl .refl _⟩
        dependencies := List.filter_sublist }

/-- **A step keeps the structure.** -/
theorem keepsStructure_apply (brief : Brief) (step : CompressionStep) :
    brief.KeepsStructure (step.apply brief) := by
  cases step with
  | stripComments =>
    exact keepsStructure_of_files brief
      (forall₂_map (SelectedFile.abridged_changeText withoutComments) brief.files)
  | collapseWhitespace =>
    exact keepsStructure_of_files brief
      (forall₂_map (SelectedFile.abridged_changeText withoutWhitespace) brief.files)
  | summarizeFunctions =>
    exact keepsStructure_of_functions brief
      (forall₂_map FunctionRecord.abridged_summarize brief.functions)
  | dropClassBodies =>
    exact keepsStructure_of_classes brief (forall₂_map ClassRecord.abridged_dropBody brief.classes)
  | abstractDuplicates =>
    exact keepsStructure_of_functions brief (abridged_abstractFrom [] brief.functions)
  | dropLowRelevance => exact keepsStructure_dropFiles brief

/-! ### The pipeline -/

/-- Noting figures about the size keeps the structure. -/
theorem keepsStructure_figures (brief : Brief) (estimatedTokens : Int) (overBudget : Bool)
    (compressionSteps : List String) :
    brief.KeepsStructure { brief with estimatedTokens, overBudget, compressionSteps } :=
  { KeepsStructure.refl brief with frame := rfl }

/-- A run of the pipeline keeps the structure, wherever it ends. -/
theorem keepsStructure_applySteps {budget : Int} {steps : List CompressionStep}
    {brief smaller : Brief} (applied : applySteps budget brief steps = .ok smaller) :
    brief.KeepsStructure smaller := by
  induction steps generalizing brief with
  | nil =>
    obtain rfl := Except.ok.inj applied
    exact .refl brief
  | cons step rest ih =>
    unfold applySteps at applied
    split at applied
    · obtain rfl := Except.ok.inj applied
      exact .refl brief
    · split at applied
      · have noted := keepsStructure_figures (step.apply brief) (step.apply brief).estimatedTokens
          (step.apply brief).overBudget ((step.apply brief).compressionSteps ++ [step.name])
        exact ((brief.keepsStructure_apply step).trans noted).trans (ih applied)
      · cases applied

theorem keepsStructure_compressBy {steps : List CompressionStep} {brief smaller : Brief}
    {budget : Int} (made : brief.compressBy steps budget = .ok smaller) :
    brief.KeepsStructure smaller := by
  unfold compressBy at made
  split at made
  · cases made
  · split at made
    · cases made
    · obtain ⟨last, applied, rfl⟩ := map_eq_ok.mp made
      exact (keepsStructure_applySteps applied).trans (keepsStructure_figures _ _ _ _)

/-- **Making a brief smaller keeps its structure**, whatever the brief and the budget: functions and
classes are the same in the same order but for their bodies (and summaries), a body that is not the
same is flagged, files are some of the files before with their paths, scores and flags, those out of
which something has been cut with their contents too, dependencies are some of those before, and all
else but the figures about the size is the same. -/
theorem compress_keepsStructure {brief smaller : Brief} {budget : Int}
    (made : brief.compress budget = .ok smaller) : brief.KeepsStructure smaller :=
  keepsStructure_compressBy made

/-- All six steps, with a file, a function and a class. -/
theorem compress_keepsStructure_sixSteps :
    let brief : Brief := {
      files := [{ path := "a.js", content := "f(); // call" }]
      functions := [{ name := "f", path := "a.js", body := "{ return 1; }" }]
      classes := [{ name := "K", path := "a.js", methods := ["a"], body := "{ a() { return 1; } }" }] }
    ∃ smaller, brief.compress 0 = .ok smaller ∧ smaller.compressionSteps.length = 6 ∧
      brief.KeepsStructure smaller := by
  intro brief
  obtain ⟨smaller, made, steps, -⟩ := @compress_zero brief rfl (by decide)
  exact ⟨smaller, made, congrArg List.length steps, compress_keepsStructure made⟩

end Brief

end CodeBrief
