/-
**How long a payload gets by being made smaller.**

Removing comments and blanks, and dropping files, never adds a character to a payload. The other
three steps put placeholders in the place of bodies of functions and classes, and a placeholder can
be longer than what it stands for: `Class with 0 methods` is longer than `{}`.

* `size_apply` — a step adds no more characters than the bodies of functions and classes gain.
* `functions_afterSteps`, `classes_afterSteps` — the bodies after the first few steps.
* `Brief.PlaceholdersFit` — no placeholder is longer than what it would stand for.
* `compress_grows_by_placeholders` — what the pipeline adds to the payload.
* `not_compress_shrinks` — a brief that gets longer.
-/

import CodeBrief.Proofs.Brief.Pipeline
import CodeBrief.Proofs.Brief.Size
import CodeBrief.Proofs.Brief.TextWeight
import CodeBrief.Proofs.Outcome

namespace CodeBrief

open Json Pattern

/-! ### Records with other bodies -/

/-- A function whose body stands under `key`. -/
def FunctionRecord.referring (record : FunctionRecord) (key : String) : FunctionRecord :=
  { record with body := "[Same body as " ++ key ++ "]", summarized := true }

theorem FunctionRecord.swaps_summarize (record : FunctionRecord) :
    Swaps FunctionRecord.toJson bodySize record record.summarize := by
  unfold FunctionRecord.summarize
  split
  · exact record.swaps _ _
  · exact rfl

theorem swaps_abstractFrom (seen : List (String × String)) (records : List FunctionRecord) :
    List.Forall₂ (Swaps FunctionRecord.toJson FunctionRecord.bodySize) records
      (abstractFrom seen records) := by
  induction records generalizing seen with
  | nil => exact .nil
  | cons record rest ih =>
    unfold abstractFrom
    split
    · exact .cons rfl (ih seen)
    · split
      · exact .cons rfl (ih _)
      · exact .cons (record.swaps _ _) (ih seen)

theorem ClassRecord.swaps_dropBody (record : ClassRecord) :
    Swaps ClassRecord.toJson bodySize record record.dropBody :=
  record.swaps _ _

/-! ### One step -/

namespace Brief

/-- The characters that write the bodies of functions and classes and what stands for them. -/
def bodiesSize (brief : Brief) : Nat :=
  (brief.functions.map FunctionRecord.bodySize).sum + (brief.classes.map ClassRecord.bodySize).sum

/-- Texts that do not get heavier. -/
theorem size_changeTexts_le (brief : Brief) {change : List Char → List Char}
    (lighter : ∀ text, textWeight charSize (change text) ≤ textWeight charSize text) :
    { brief with files := brief.files.map (SelectedFile.changeText change) }.payload.size ≤
      brief.payload.size := by
  have files := size_ofList_map_le SelectedFile.toJson (SelectedFile.changeText change) brief.files
    fun file _ => file.size_changeText_le lighter
  have swap := brief.size_payload_swap (brief.files.map (SelectedFile.changeText change))
    brief.functions brief.classes brief.dependencies
  simp only [listsSize] at swap
  omega

/-- Fewer files and fewer dependencies. -/
theorem size_dropFiles_le (brief : Brief) : brief.dropFiles.payload.size ≤ brief.payload.size := by
  unfold dropFiles
  split
  · exact Nat.le_refl _
  · dsimp only
    generalize keptEq : (sortBy (fun left right => decide (right.relevance ≤ left.relevance))
      brief.files).take (keptFiles brief.files.length) = kept
    have fewer : kept.Subperm brief.files := by
      rw [← keptEq]
      exact (List.take_sublist _ _).subperm.trans (sortBy_perm _ brief.files).subperm
    have files := size_ofList_le_of_subperm SelectedFile.toJson fewer
    have dependencies := size_filter_le brief.dependencies fun path _ =>
      (kept.map SelectedFile.path).contains path
    have swap := brief.size_payload_swap kept brief.functions brief.classes
      (brief.dependencies.filter fun path _ => (kept.map SelectedFile.path).contains path)
    simp only [listsSize] at swap
    omega

/-- Dropping files leaves functions and classes alone. -/
theorem functions_dropFiles (brief : Brief) : brief.dropFiles.functions = brief.functions := by
  unfold dropFiles
  split <;> rfl

theorem classes_dropFiles (brief : Brief) : brief.dropFiles.classes = brief.classes := by
  unfold dropFiles
  split <;> rfl

theorem bodiesSize_dropFiles (brief : Brief) : brief.dropFiles.bodiesSize = brief.bodiesSize := by
  unfold bodiesSize
  rw [functions_dropFiles, classes_dropFiles]

/-- Functions that change in their bodies only. -/
theorem size_swapFunctions (brief : Brief) {functions : List FunctionRecord}
    (swaps : List.Forall₂ (Swaps FunctionRecord.toJson FunctionRecord.bodySize) brief.functions
      functions) :
    { brief with functions }.payload.size + brief.bodiesSize =
      brief.payload.size + { brief with functions }.bodiesSize := by
  have lists := size_ofList_swap FunctionRecord.toJson FunctionRecord.bodySize swaps
  have swap := brief.size_payload_swap brief.files functions brief.classes brief.dependencies
  simp only [listsSize] at swap
  simp only [bodiesSize]
  omega

/-- Classes that change in their bodies only. -/
theorem size_swapClasses (brief : Brief) {classes : List ClassRecord}
    (swaps : List.Forall₂ (Swaps ClassRecord.toJson ClassRecord.bodySize) brief.classes classes) :
    { brief with classes }.payload.size + brief.bodiesSize =
      brief.payload.size + { brief with classes }.bodiesSize := by
  have lists := size_ofList_swap ClassRecord.toJson ClassRecord.bodySize swaps
  have swap := brief.size_payload_swap brief.files brief.functions classes brief.dependencies
  simp only [listsSize] at swap
  simp only [bodiesSize]
  omega

/-- **A step adds no more characters than the bodies of functions and classes gain.** -/
theorem size_apply (step : CompressionStep) (brief : Brief) :
    (step.apply brief).payload.size + brief.bodiesSize ≤
      brief.payload.size + (step.apply brief).bodiesSize := by
  cases step with
  | stripComments =>
    exact Nat.add_le_add_right
      (brief.size_changeTexts_le (textWeight_withoutComments_le charSize)) _
  | collapseWhitespace =>
    exact Nat.add_le_add_right (brief.size_changeTexts_le
      (textWeight_withoutWhitespace_le charSize charSize_pos)) _
  | summarizeFunctions =>
    exact (brief.size_swapFunctions (List.forall₂_map_right_iff.mpr
      (List.forall₂_same.mpr fun record _ => record.swaps_summarize))).le
  | dropClassBodies =>
    exact (brief.size_swapClasses (List.forall₂_map_right_iff.mpr
      (List.forall₂_same.mpr fun record _ => record.swaps_dropBody))).le
  | abstractDuplicates => exact (brief.size_swapFunctions (swaps_abstractFrom [] _)).le
  | dropLowRelevance =>
    show brief.dropFiles.payload.size + _ ≤ _ + brief.dropFiles.bodiesSize
    rw [bodiesSize_dropFiles]
    exact Nat.add_le_add_right brief.size_dropFiles_le _

/-- So do all steps of a run together. -/
theorem size_afterAll (steps : List CompressionStep) (brief : Brief) :
    (brief.afterAll steps).payload.size + brief.bodiesSize ≤
      brief.payload.size + (brief.afterAll steps).bodiesSize := by
  induction steps generalizing brief with
  | nil => exact Nat.le_refl _
  | cons step rest ih =>
    have first := size_apply step brief
    have others := ih (step.apply brief)
    show (afterAll rest (step.apply brief)).payload.size + _ ≤
      _ + (afterAll rest (step.apply brief)).bodiesSize
    omega

/-! ### The bodies after the first few steps -/

/-- Six steps or more are all steps. -/
theorem afterSteps_all (brief : Brief) (count : Nat) :
    brief.afterSteps (count + 6) = (brief.afterSteps 5).dropFiles := by
  unfold afterSteps
  rw [List.take_of_length_le (by simp [CompressionStep.all])]
  rfl

theorem functions_afterSteps (brief : Brief) (count : Nat) :
    (brief.afterSteps count).functions =
      if count < 3 then brief.functions
      else if count < 5 then brief.functions.map FunctionRecord.summarize
      else abstractFrom [] (brief.functions.map FunctionRecord.summarize) := by
  match count with
  | 0 | 1 | 2 | 3 | 4 | 5 => rfl
  | count + 6 =>
    rw [afterSteps_all, functions_dropFiles, if_neg (by omega), if_neg (by omega)]
    rfl

theorem classes_afterSteps (brief : Brief) (count : Nat) :
    (brief.afterSteps count).classes =
      if count < 4 then brief.classes else brief.classes.map ClassRecord.dropBody := by
  match count with
  | 0 | 1 | 2 | 3 | 4 | 5 => rfl
  | count + 6 =>
    rw [afterSteps_all, classes_dropFiles, if_neg (by omega)]
    rfl

/-! ### Placeholders that fit -/

end Brief

/-- A function gets no longer if it refers to `key`, where `body` stands, for its own body. -/
def FunctionRecord.ReferenceFits (record : FunctionRecord) (body key : String) : Prop :=
  record.body.isEmpty = false → record.summarized = false → body = record.body →
    (record.referring key).bodySize ≤ record.bodySize

instance (record : FunctionRecord) (body key : String) :
    Decidable (record.ReferenceFits body key) :=
  inferInstanceAs (Decidable (_ → _ → _ → _))

/-- No placeholder is longer than what it would stand for. -/
structure Brief.PlaceholdersFit (brief : Brief) : Prop where
  /-- A long body is no shorter than what tells its length and complexity. -/
  summaries : ∀ record ∈ brief.functions, record.summarize.bodySize ≤ record.bodySize
  /-- The body and the summary of a class are no shorter than what tells its number of methods. -/
  counts : ∀ record ∈ brief.classes, record.dropBody.bodySize ≤ record.bodySize
  /-- A body that occurs before, and is not too long, is no shorter than a reference to it. -/
  references : brief.functions.Pairwise fun original record =>
    original.summarized = false → record.body.length ≤ longBodyLength →
      record.ReferenceFits original.body original.key

/-- Abstracting makes no body longer if every reference fits, those to bodies seen before
included. -/
theorem sum_bodySize_abstractFrom_le (seen : List (String × String)) (records : List FunctionRecord)
    (earlier : ∀ entry ∈ seen, ∀ record ∈ records, record.ReferenceFits entry.1 entry.2)
    (later : records.Pairwise fun original record =>
      original.summarized = false → record.ReferenceFits original.body original.key) :
    ((abstractFrom seen records).map FunctionRecord.bodySize).sum ≤
      (records.map FunctionRecord.bodySize).sum := by
  induction records generalizing seen with
  | nil => exact Nat.le_refl _
  | cons record rest ih =>
    obtain ⟨now, later⟩ := List.pairwise_cons.mp later
    have earlierRest : ∀ entry ∈ seen, ∀ other ∈ rest, other.ReferenceFits entry.1 entry.2 :=
      fun entry member other otherMember =>
        earlier entry member other (List.mem_cons_of_mem _ otherMember)
    unfold abstractFrom
    split
    · simp only [List.map_cons, List.sum_cons]
      exact Nat.add_le_add_left (ih seen earlierRest later) _
    · rename_i whole
      rw [Bool.or_eq_true, not_or, Bool.not_eq_true, Bool.not_eq_true] at whole
      split
      · -- The body is new: it is seen from now on.
        simp only [List.map_cons, List.sum_cons]
        refine Nat.add_le_add_left (ih _ (fun entry member other otherMember => ?_) later) _
        rcases List.mem_append.mp member with old | new
        · exact earlierRest entry old other otherMember
        · rw [List.mem_singleton] at new
          subst new
          exact now other otherMember whole.2
      · rename_i key found
        obtain ⟨before, after, same, _⟩ := List.lookup_eq_some_iff.mp found
        have member : (record.body, key) ∈ seen := by
          rw [same]
          exact List.mem_append_right _ List.mem_cons_self
        have fits := earlier _ member record List.mem_cons_self whole.1 whole.2 rfl
        simp only [List.map_cons, List.sum_cons]
        exact Nat.add_le_add fits (ih seen earlierRest later)

/-- A function that is not marked after its long body is left out has been left alone. -/
theorem FunctionRecord.summarize_eq_self {record : FunctionRecord}
    (whole : record.summarize.summarized = false) :
    record.summarize = record ∧ record.body.length ≤ longBodyLength := by
  unfold FunctionRecord.summarize at whole ⊢
  split at whole
  · cases whole
  · rename_i short
    exact ⟨if_neg short, Nat.not_lt.mp short⟩

namespace Brief

theorem sum_bodySize_functions_le {brief : Brief} (fits : brief.PlaceholdersFit) (count : Nat) :
    ((brief.afterSteps count).functions.map FunctionRecord.bodySize).sum ≤
      (brief.functions.map FunctionRecord.bodySize).sum := by
  have summarized : ((brief.functions.map FunctionRecord.summarize).map
      FunctionRecord.bodySize).sum ≤ (brief.functions.map FunctionRecord.bodySize).sum := by
    rw [List.map_map]
    exact List.sum_le_sum fits.summaries
  -- Marked functions take no part in abstracting, and the others are as they were.
  have references : (brief.functions.map FunctionRecord.summarize).Pairwise fun original record =>
      original.summarized = false → record.ReferenceFits original.body original.key := by
    refine List.pairwise_map.mpr (fits.references.imp fun {original record} refers whole => ?_)
    intro nonempty whole' same
    obtain ⟨originalSame, _⟩ := FunctionRecord.summarize_eq_self whole
    obtain ⟨recordSame, short⟩ := FunctionRecord.summarize_eq_self whole'
    rw [originalSame] at whole same ⊢
    rw [recordSame] at nonempty whole' same ⊢
    exact refers whole short nonempty whole' same
  have abstracted := sum_bodySize_abstractFrom_le [] (brief.functions.map FunctionRecord.summarize)
    (fun _ member => absurd member List.not_mem_nil) references
  rw [functions_afterSteps]
  split
  · exact Nat.le_refl _
  · split
    · exact summarized
    · exact abstracted.trans summarized

theorem sum_bodySize_classes_le {brief : Brief} (fits : brief.PlaceholdersFit) (count : Nat) :
    ((brief.afterSteps count).classes.map ClassRecord.bodySize).sum ≤
      (brief.classes.map ClassRecord.bodySize).sum := by
  rw [classes_afterSteps]
  split
  · exact Nat.le_refl _
  · rw [List.map_map]
    exact List.sum_le_sum fits.counts

theorem size_shrunk (brief : Brief) (budget : Int) :
    (brief.shrunk budget).payload.size =
      (brief.afterSteps (brief.stepsNeeded budget)).payload.size := rfl

theorem bodiesSize_shrunk (brief : Brief) (budget : Int) :
    (brief.shrunk budget).bodiesSize =
      (brief.afterSteps (brief.stepsNeeded budget)).bodiesSize := rfl

theorem estimatedTokens_shrunk (brief : Brief) (budget : Int) :
    (brief.shrunk budget).estimatedTokens = tokensOfLength (brief.shrunk budget).payload.size :=
  rfl

/-- **What the pipeline adds to a payload.** It adds no more characters than the bodies of functions
and classes gain when placeholders take their place; so the estimate does not grow if they gain
none, and they gain none if no placeholder is longer than what it would stand for. -/
theorem compress_grows_by_placeholders {brief smaller : Brief} {budget : Int}
    (made : brief.compress budget = .ok smaller) :
    smaller.payload.size + brief.bodiesSize ≤ brief.payload.size + smaller.bodiesSize ∧
    (smaller.bodiesSize ≤ brief.bodiesSize → smaller.estimatedTokens ≤ brief.tokens) ∧
    (brief.PlaceholdersFit → smaller.estimatedTokens ≤ brief.tokens) := by
  obtain rfl := eq_shrunk_of_compress made
  have bound : (brief.shrunk budget).payload.size + brief.bodiesSize ≤
      brief.payload.size + (brief.shrunk budget).bodiesSize := by
    rw [size_shrunk, bodiesSize_shrunk]
    exact size_afterAll _ brief
  have estimate : (brief.shrunk budget).bodiesSize ≤ brief.bodiesSize →
      (brief.shrunk budget).estimatedTokens ≤ brief.tokens := by
    intro gainless
    have size : (brief.shrunk budget).payload.size ≤ brief.payload.size := by omega
    rw [estimatedTokens_shrunk, tokens_eq]
    exact Int.ofNat_le.mpr (tokensOfLength_mono size)
  refine ⟨bound, estimate, fun fits => estimate ?_⟩
  rw [bodiesSize_shrunk]
  exact Nat.add_le_add (sum_bodySize_functions_le fits _) (sum_bodySize_classes_le fits _)

/-- Two functions with one body, and a class, that have room for their placeholders. -/
theorem compress_roomy :
    let brief : Brief := {
      functions := [
        { name := "f", path := "a.js", body := "{ return this.items.length; }" },
        { name := "g", path := "b.js", body := "{ return this.items.length; }" }]
      classes := [
        { name := "K", path := "a.js", methods := ["a"], body := "{ a() { return 1; } }" }] }
    brief.PlaceholdersFit ∧ ∃ smaller, brief.compress 0 = .ok smaller ∧
      smaller.compressionSteps.length = 6 ∧ smaller.estimatedTokens ≤ brief.tokens := by
  intro brief
  have fits : brief.PlaceholdersFit :=
    ⟨by decide +kernel, by decide +kernel, by decide +kernel⟩
  obtain ⟨smaller, made, steps, -⟩ := @compress_zero brief rfl (by decide)
  exact ⟨fits, smaller, made, congrArg List.length steps,
    (compress_grows_by_placeholders made).2.2 fits⟩

/-- **A payload can get bigger**: a class without methods is described at greater length than its
body takes. -/
theorem not_compress_shrinks :
    ¬ ∀ (brief smaller : Brief) (budget : Int), brief.compress budget = .ok smaller →
      smaller.estimatedTokens ≤ brief.tokens := by
  intro always
  let brief : Brief := { classes := [{ name := "K", path := "a.js", body := "{}" }] }
  obtain ⟨smaller, made, -, estimate⟩ := @compress_zero brief rfl (by decide)
  have less := always brief smaller 0 made
  rw [estimate] at less
  exact absurd less (by decide +kernel)

/-- A reference is longer than a body of one character, too. -/
example :
    let brief : Brief := { functions := [
      { name := "f", path := "a.js", body := "x" }, { name := "g", path := "a.js", body := "x" }] }
    brief.tokens < (brief.afterAll CompressionStep.all).tokens := by
  decide +kernel

end Brief

end CodeBrief
