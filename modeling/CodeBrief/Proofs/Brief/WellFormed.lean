/-
**Briefs stay well-formed.**

* `Brief.WellFormed` — the files of a brief are indexed, distinct, and stand from the highest score
  down; its functions and classes are distinct; its dependencies are what the import graph knows
  about the scripts among the files.
* `KeepsOutline` — that two briefs agree on all that this is about. The steps that change texts
  keep the outline, and with it well-formedness.
* `wellFormed_dropFiles` — the step that drops files sorts them first. As they are sorted already,
  it keeps the first ones, and the dependencies of those.
* `wellFormed_withBudget` — a brief is well-formed however many steps its budget calls for.
* `Brief.Verbatim` — uncut files have their indexed texts; `verbatim_withBudget` says that this
  lasts until a step is taken.
-/

import CodeBrief.Proofs.Brief.Pipeline
import CodeBrief.Proofs.Ledger
import CodeBrief.Proofs.Ranking
import CodeBrief.Session.Basic

namespace CodeBrief

/-! ### What steps keep of records -/

@[simp] theorem SelectedFile.path_changeText (change : List Char → List Char)
    (file : SelectedFile) : (file.changeText change).path = file.path := by
  unfold changeText
  split <;> rfl

@[simp] theorem SelectedFile.relevance_changeText (change : List Char → List Char)
    (file : SelectedFile) : (file.changeText change).relevance = file.relevance := by
  unfold changeText
  split <;> rfl

@[simp] theorem FunctionRecord.key_summarize (record : FunctionRecord) :
    record.summarize.key = record.key := by
  unfold summarize
  split <;> rfl

theorem keys_abstractFrom (seen : List (String × String)) (records : List FunctionRecord) :
    (abstractFrom seen records).map FunctionRecord.key = records.map FunctionRecord.key := by
  induction records generalizing seen with
  | nil => rfl
  | cons record rest ih =>
    unfold abstractFrom
    split
    · rw [List.map_cons, List.map_cons, ih]
    · split
      · rw [List.map_cons, List.map_cons, ih]
      · rw [List.map_cons, List.map_cons, ih]
        rfl

/-- Of distinct elements, those that stand in an initial segment are that segment. -/
theorem filter_mem_take {α : Type} [BEq α] [LawfulBEq α] {xs : List α} (distinct : xs.Nodup)
    (count : Nat) : xs.filter (xs.take count).contains = xs.take count := by
  have apart := List.disjoint_take_drop distinct (Nat.le_refl count)
  have first : (xs.take count).filter (xs.take count).contains = xs.take count :=
    List.filter_eq_self.mpr fun x member => List.contains_iff_mem.mpr member
  have others : (xs.drop count).filter (xs.take count).contains = [] :=
    List.filter_eq_nil_iff.mpr fun x member inside => apart (List.contains_iff_mem.mp inside) member
  calc xs.filter (xs.take count).contains
      = (xs.take count ++ xs.drop count).filter (xs.take count).contains := by
        rw [List.take_append_drop]
    _ = xs.take count := by rw [List.filter_append, first, others, List.append_nil]

namespace Brief

/-! ### Well-formed briefs -/

/-- The parts of a brief fit together, and they are from a snapshot. -/
structure WellFormed (snapshot : Snapshot) (brief : Brief) : Prop where
  /-- No file occurs twice. -/
  paths : (brief.files.map SelectedFile.path).Nodup
  /-- The files are indexed. -/
  indexed : ∀ path ∈ brief.files.map SelectedFile.path, path ∈ snapshot.index.files.names
  /-- The files stand from the highest score down. -/
  descending : (brief.files.map SelectedFile.relevance).Pairwise fun higher lower =>
    lower ≤ higher
  /-- No function occurs twice. -/
  functions : (brief.functions.map FunctionRecord.key).Nodup
  /-- No class occurs twice. -/
  classes : (brief.classes.map ClassRecord.key).Nodup
  /-- The dependencies are those of the scripts among the files. -/
  scripts : brief.dependencies.names = (brief.files.map SelectedFile.path).filter Path.isScript
  /-- They are what the import graph knows. -/
  facts : ∀ path ∈ brief.dependencies.names,
    brief.dependencies.get? path = snapshot.graph.scripts.get? path

/-- The files out of which nothing has been cut have their indexed texts. -/
def Verbatim (snapshot : Snapshot) (brief : Brief) : Prop :=
  ∀ file ∈ brief.files, file.summarized = false →
    snapshot.index.files.get? file.path = some file.content

/-- Two briefs differ in texts and bodies at most, and in the figures about their size. -/
structure KeepsOutline (brief changed : Brief) : Prop where
  /-- The files are the same. -/
  paths : changed.files.map SelectedFile.path = brief.files.map SelectedFile.path
  /-- They have the same scores. -/
  relevances : changed.files.map SelectedFile.relevance = brief.files.map SelectedFile.relevance
  /-- The functions are the same. -/
  functions : changed.functions.map FunctionRecord.key = brief.functions.map FunctionRecord.key
  /-- The classes are the same. -/
  classes : changed.classes.map ClassRecord.key = brief.classes.map ClassRecord.key
  /-- The dependencies are the same. -/
  dependencies : changed.dependencies = brief.dependencies

variable {snapshot : Snapshot} {brief changed : Brief}

theorem WellFormed.of_keepsOutline (wellFormed : brief.WellFormed snapshot)
    (keeps : brief.KeepsOutline changed) : changed.WellFormed snapshot where
  paths := by
    rw [keeps.paths]
    exact wellFormed.paths
  indexed := by
    rw [keeps.paths]
    exact wellFormed.indexed
  descending := by
    rw [keeps.relevances]
    exact wellFormed.descending
  functions := by
    rw [keeps.functions]
    exact wellFormed.functions
  classes := by
    rw [keeps.classes]
    exact wellFormed.classes
  scripts := by
    rw [keeps.paths, keeps.dependencies]
    exact wellFormed.scripts
  facts := by
    rw [keeps.dependencies]
    exact wellFormed.facts

/-! ### Steps -/

/-- All steps but the last one keep the outline. -/
theorem keepsOutline_apply (brief : Brief) {step : CompressionStep}
    (keepsFiles : step ≠ .dropLowRelevance) : brief.KeepsOutline (step.apply brief) := by
  cases step with
  | stripComments =>
    constructor <;> simp [CompressionStep.apply, Function.comp_def]
  | collapseWhitespace =>
    constructor <;> simp [CompressionStep.apply, Function.comp_def]
  | summarizeFunctions =>
    constructor <;> simp [CompressionStep.apply, Function.comp_def]
  | dropClassBodies =>
    constructor <;> simp [CompressionStep.apply, Function.comp_def, ClassRecord.dropBody,
      ClassRecord.key]
  | abstractDuplicates =>
    constructor <;> simp [CompressionStep.apply, keys_abstractFrom]
  | dropLowRelevance => exact absurd rfl keepsFiles

/-- **Dropping files.** -/
theorem wellFormed_dropFiles (wellFormed : brief.WellFormed snapshot) :
    brief.dropFiles.WellFormed snapshot := by
  unfold dropFiles
  split
  · exact wellFormed
  · -- The files stand in order already, so that sorting them does nothing.
    have sorted : sortBy (fun left right => decide (right.relevance ≤ left.relevance)) brief.files =
        brief.files := by
      refine sortBy_eq_self ?_
      exact (List.pairwise_map.mp wellFormed.descending).imp fun le => decide_eq_true le
    dsimp only
    rw [sorted]
    generalize keptFiles brief.files.length = count
    have paths : (brief.files.take count).map SelectedFile.path =
        (brief.files.map SelectedFile.path).take count := List.map_take
    have fewer : ((brief.files.take count).map SelectedFile.path).Sublist
        (brief.files.map SelectedFile.path) := (List.take_sublist count _).map _
    constructor
    case paths => exact wellFormed.paths.sublist fewer
    case indexed => exact fun path member => wellFormed.indexed path (fewer.subset member)
    case descending =>
      exact wellFormed.descending.sublist ((List.take_sublist count _).map _)
    case functions => exact wellFormed.functions
    case classes => exact wellFormed.classes
    case scripts =>
      calc (brief.dependencies.filter fun path _ =>
              ((brief.files.take count).map SelectedFile.path).contains path).names
          = brief.dependencies.names.filter
              ((brief.files.map SelectedFile.path).take count).contains := by
            rw [Ledger.names_filter, paths]
        _ = ((brief.files.map SelectedFile.path).filter
              ((brief.files.map SelectedFile.path).take count).contains).filter
                Path.isScript := by
            rw [wellFormed.scripts, List.filter_filter, List.filter_filter]
            exact List.filter_congr fun path _ => Bool.and_comm _ _
        _ = ((brief.files.take count).map SelectedFile.path).filter Path.isScript := by
            rw [filter_mem_take wellFormed.paths, paths]
    case facts =>
      -- What is left among the dependencies stood there before.
      intro path member
      obtain ⟨facts, found⟩ := Option.isSome_iff_exists.mp (Ledger.isSome_get?_iff.mpr member)
      rw [found]
      have known := (Ledger.get?_filter_eq_some.mp found).1
      rw [← wellFormed.facts path (Ledger.isSome_get?_iff.mp (by rw [known]; rfl)), known]

/-- One step. -/
theorem wellFormed_apply (wellFormed : brief.WellFormed snapshot) (step : CompressionStep) :
    (step.apply brief).WellFormed snapshot := by
  by_cases drops : step = .dropLowRelevance
  · rw [drops]
    exact wellFormed_dropFiles wellFormed
  · exact wellFormed.of_keepsOutline (brief.keepsOutline_apply drops)

/-- Any steps. -/
theorem wellFormed_afterAll (wellFormed : brief.WellFormed snapshot)
    (steps : List CompressionStep) : (brief.afterAll steps).WellFormed snapshot := by
  induction steps generalizing brief with
  | nil => exact wellFormed
  | cons step rest ih => exact ih (wellFormed_apply wellFormed step)

/-! ### Budgets -/

theorem wellFormed_shrunk (wellFormed : brief.WellFormed snapshot) (budget : Int) :
    (brief.shrunk budget).WellFormed snapshot := by
  have after : (brief.afterSteps (brief.stepsNeeded budget)).WellFormed snapshot :=
    wellFormed_afterAll wellFormed _
  exact after.of_keepsOutline ⟨rfl, rfl, rfl, rfl, rfl⟩

/-- **A brief is well-formed however many steps its budget calls for.** -/
theorem wellFormed_withBudget (wellFormed : brief.WellFormed snapshot) {budget : Int} {given : Brief}
    (sized : brief.withBudget budget = .ok given) : given.WellFormed snapshot := by
  have measured : (brief.measured budget).WellFormed snapshot :=
    wellFormed.of_keepsOutline ⟨rfl, rfl, rfl, rfl, rfl⟩
  obtain ⟨-, ⟨-, rfl⟩ | ⟨-, made⟩⟩ := withBudget_eq_ok_iff.mp sized
  · exact measured
  · rw [eq_shrunk_of_compress made]
    exact wellFormed_shrunk measured budget

/-- A brief without noted steps has been left alone. -/
theorem afterSteps_of_compressionSteps_eq_nil {budget : Int}
    (none : (brief.shrunk budget).compressionSteps = []) :
    brief.afterSteps (brief.stepsNeeded budget) = brief := by
  have noSteps := List.map_eq_nil_iff.mp (List.append_eq_nil_iff.mp none).2
  unfold afterSteps
  rw [noSteps]
  rfl

/-- **Texts stay as they are until a step is taken.** -/
theorem verbatim_withBudget (verbatim : brief.Verbatim snapshot) {budget : Int} {given : Brief}
    (sized : brief.withBudget budget = .ok given) (none : given.compressionSteps = []) :
    given.Verbatim snapshot := by
  obtain ⟨-, ⟨-, rfl⟩ | ⟨-, made⟩⟩ := withBudget_eq_ok_iff.mp sized
  · exact verbatim
  · obtain rfl := eq_shrunk_of_compress made
    have same := afterSteps_of_compressionSteps_eq_nil none
    intro file member
    refine verbatim file ?_
    change file ∈ ((brief.measured budget).afterSteps _).files at member
    rwa [same] at member

end Brief

end CodeBrief
