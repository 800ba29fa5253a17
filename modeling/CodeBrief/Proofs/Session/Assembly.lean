/-
**The briefs that sessions give.**

* `Session.draft` — the brief for a query before its size is looked at.
* `assemble_eq_ok_iff` — a session gives a brief just if there is a working budget, the project can
  be told, and the draft can be brought to its size; the brief is the draft with its budget.
* `wellFormed_briefOf` — the draft is well-formed if the snapshot comes from one analysis.
* `brief_wellFormed` — so is every brief that is given, at any point of any history.
-/

import CodeBrief.Proofs.Brief.WellFormed
import CodeBrief.Proofs.ImportGraph.Importers
import CodeBrief.Proofs.Selection.Contents
import CodeBrief.Proofs.Session.History

namespace CodeBrief

/-! ### Drafts -/

namespace Session

/-- The number of tokens that a brief should have at most. -/
def budgetFor (session : Session) (options : BriefOptions) : Int :=
  options.maxTokens.getD session.settings.brief.maxTokens

/-- What is selected for a query within a working budget. -/
def selectionFor (session : Session) (query : String) (room : Int) : Selection :=
  .choose session.snapshot.index (session.scores query (.classify query)).entries room

/-- The brief for a query before its size is looked at. -/
def draft (session : Session) (query : String) (options : BriefOptions) (room : Int)
    (project : ProjectSummary) : Brief :=
  { session.snapshot.briefOf project query (.classify query) (session.selectionFor query room) with
    analysis :=
      if options.includeAnalysis.getD session.settings.brief.includeAnalysis then
        some (session.snapshot.excerpt (Intent.classify query).kind)
      else none
    memory :=
      if options.includeMemory.getD session.settings.brief.includeMemory then
        some (session.memory.recollect query)
      else none }

variable {session : Session} {query : String} {options : BriefOptions} {brief : Brief}

/-- A brief is drafted in the room that the budget leaves, and then brought to its size. -/
theorem assemble_eq :
    session.assemble query options =
      (workingBudget session.settings.brief.metadataReserve
        (session.budgetFor options)).mapError .budget >>= fun room =>
          session.snapshot.summary.mapError .unencodable >>= fun project =>
            ((session.draft query options room project).withBudget
              (session.budgetFor options)).mapError .size := rfl

/-- **When a session gives a brief, and which one.** -/
theorem assemble_eq_ok_iff :
    session.assemble query options = .ok brief ↔
      ∃ room project,
        workingBudget session.settings.brief.metadataReserve (session.budgetFor options) =
          .ok room ∧
        session.snapshot.summary = .ok project ∧
        (session.draft query options room project).withBudget (session.budgetFor options) =
          .ok brief := by
  rw [assemble_eq, bind_eq_ok]
  simp only [bind_eq_ok, mapError_eq_ok, exists_and_left]

end Session

/-! ### Well-formed drafts -/

namespace Snapshot

variable {room : Nat} {paths : List String} {files : Ledger String} {snapshot : Snapshot}

/-- A file is known to the import graph just if it is a script. -/
theorem isSome_scripts_iff (held : ofContents room paths files = .ok snapshot) {path : String}
    (indexed : path ∈ snapshot.index.files.names) :
    (snapshot.graph.scripts.get? path).isSome = Path.isScript path := by
  rw [index_ofContents held] at indexed
  rw [graph_ofContents held, Bool.eq_iff_iff, Option.isSome_iff_exists]
  obtain ⟨content, known⟩ := Option.isSome_iff_exists.mp (Ledger.isSome_get?_iff.mpr indexed)
  constructor
  · rintro ⟨facts, found⟩
    obtain ⟨_, -, script, -⟩ := ImportGraph.get?_scripts_build.mp found
    exact script
  · intro script
    exact ⟨_, ImportGraph.get?_scripts_build.mpr ⟨content, known, script, rfl⟩⟩

/-- About distinct files everything is entered as it stands in the import graph. -/
theorem entries_scriptsAmong {chosen : List SelectedFile}
    (distinct : (chosen.map SelectedFile.path).Nodup) :
    (snapshot.scriptsAmong chosen).entries =
      snapshot.graph.scripts.entriesFor (chosen.map SelectedFile.path) := by
  have entered : snapshot.scriptsAmong chosen =
      .ofList (snapshot.graph.scripts.entriesFor (chosen.map SelectedFile.path)) := by
    unfold scriptsAmong Ledger.entriesFor
    rw [List.filterMap_map]
    rfl
  rw [entered]
  refine Ledger.entries_ofList ?_
  rw [Ledger.names_entriesFor]
  exact distinct.filter _

/-- **A draft is well-formed.** -/
theorem wellFormed_briefOf (held : ofContents room paths files = .ok snapshot)
    (project : ProjectSummary) (query : String) (intent : Intent) (scores : Ledger Int)
    (budget : Int) : (snapshot.briefOf project query intent
      (.choose snapshot.index scores.entries budget)).WellFormed snapshot := by
  have keyed : snapshot.index.Keyed := by
    rw [index_ofContents held]
    exact Index.keyed_build files
  have distinct := Selection.nodup_paths_choose snapshot.index scores budget
  have indexed : ∀ path ∈ (Selection.choose snapshot.index scores.entries budget).files.map
      SelectedFile.path, path ∈ snapshot.index.files.names := by
    intro path member
    obtain ⟨file, inside, rfl⟩ := List.mem_map.mp member
    obtain ⟨content, found, -⟩ := Selection.text_of_mem_choose snapshot.index scores budget inside
    exact Ledger.isSome_get?_iff.mp (by rw [found]; rfl)
  constructor
  case paths => exact distinct
  case indexed => exact indexed
  case descending =>
    exact List.pairwise_map.mpr (Selection.descending_choose snapshot.index scores budget)
  case functions => exact Selection.nodup_functions_choose scores budget keyed
  case classes => exact Selection.nodup_classes_choose scores budget keyed
  case scripts =>
    show (snapshot.scriptsAmong _).names = _
    unfold Ledger.names
    rw [entries_scriptsAmong distinct, Ledger.names_entriesFor]
    exact List.filter_congr fun path member => isSome_scripts_iff held (indexed path member)
  case facts =>
    intro path member
    obtain ⟨facts, found⟩ := Option.isSome_iff_exists.mp (Ledger.isSome_get?_iff.mpr member)
    have entered := Ledger.get?_eq_some_iff.mp found
    unfold briefOf at entered
    rw [entries_scriptsAmong distinct] at entered
    rw [found, Ledger.get?_of_mem_entriesFor entered]

/-- The uncut files of a draft have their indexed texts. -/
theorem verbatim_briefOf (snapshot : Snapshot) (project : ProjectSummary) (query : String)
    (intent : Intent) (scores : Ledger Int) (budget : Int) : (snapshot.briefOf project query intent
      (.choose snapshot.index scores.entries budget)).Verbatim snapshot := by
  intro file member whole
  obtain ⟨content, found, same⟩ :=
    Selection.text_of_mem_choose snapshot.index scores budget member
  rw [found, same whole]

end Snapshot

/-! ### A small history -/

namespace Session

/-- Two files are analysed, and one of them is touched. -/
def smallHistory : List Operation :=
  let files : Ledger String := .ofList
    [("a.js", "// sign in\nfunction login(name) { return name; }"), ("b.js", "require('a.js')")]
  [.analyze Json.usualRoom (listMapping files) (mappingLoader files) [], .touch "a.js"]

/-- It takes all six steps to get the brief for this query within this budget. -/
theorem brief_smallHistory :
    ∃ brief, (((withSettings {}).run smallHistory).brief "fix login" { maxTokens := some 225 }).2 =
        .ok brief ∧
      brief.files.map SelectedFile.path = ["a.js"] ∧ brief.compressionSteps.length = 6 ∧
      brief.overBudget = false := by
  have outcome :
      (((withSettings {}).run smallHistory).brief "fix login" { maxTokens := some 225 }).2.map
          (fun brief => (brief.files.map SelectedFile.path, brief.compressionSteps.length,
            brief.overBudget)) =
        .ok (["a.js"], 6, false) := by
    decide +kernel
  obtain ⟨brief, given, same⟩ := map_eq_ok.mp outcome
  simp only [Prod.mk.injEq] at same
  exact ⟨brief, given, same⟩

/-- The usual budget takes none of them. -/
theorem brief_smallHistory_roomy :
    ∃ brief, (((withSettings {}).run smallHistory).brief "fix login" {}).2 = .ok brief ∧
      brief.files.map SelectedFile.summarized = [false, false] ∧ brief.compressionSteps = [] := by
  have outcome :
      (((withSettings {}).run smallHistory).brief "fix login" {}).2.map
          (fun brief => (brief.files.map SelectedFile.summarized, brief.compressionSteps)) =
        .ok ([false, false], []) := by
    decide +kernel
  obtain ⟨brief, given, same⟩ := map_eq_ok.mp outcome
  simp only [Prod.mk.injEq] at same
  exact ⟨brief, given, same⟩

end Session

/-! ### The briefs of a history -/

namespace Session

variable {session : Session} {query : String} {options : BriefOptions} {brief : Brief}

/-- The briefs of a session whose snapshot comes from one analysis. -/
theorem wellFormed_of_assemble (held : session.HoldsContents)
    (given : session.assemble query options = .ok brief) :
    brief.WellFormed session.snapshot ∧
      (brief.compressionSteps = [] → brief.Verbatim session.snapshot) := by
  obtain ⟨room, paths, files, read⟩ := held
  obtain ⟨working, project, -, -, sized⟩ := assemble_eq_ok_iff.mp given
  have wellFormed : (session.draft query options working project).WellFormed session.snapshot :=
    (Snapshot.wellFormed_briefOf read project query (.classify query) _ working).of_keepsOutline
      ⟨rfl, rfl, rfl, rfl, rfl⟩
  have verbatim : (session.draft query options working project).Verbatim session.snapshot :=
    Snapshot.verbatim_briefOf session.snapshot project query (.classify query) _ working
  exact ⟨Brief.wellFormed_withBudget wellFormed sized, Brief.verbatim_withBudget verbatim sized⟩

/-- **Every brief that is given is well-formed**: at any point of any history, for any query,
options and budget, and however many steps the budget calls for. The snapshot that it is from comes
from one analysis of some contents. If no step is noted in the brief, the files out of which nothing
has been cut have their indexed texts. -/
theorem brief_wellFormed {settings : Settings} {operations : List Operation}
    (given : (((withSettings settings).run operations).brief query options).2 = .ok brief) :
    ((withSettings settings).run operations).HoldsContents ∧
      brief.WellFormed ((withSettings settings).run operations).snapshot ∧
      (brief.compressionSteps = [] →
        brief.Verbatim ((withSettings settings).run operations).snapshot) := by
  have held := holdsContents_run (holdsContents_withSettings settings) operations
  -- The brief is from the session with its focus set, which has the same snapshot.
  have outcome := wellFormed_of_assemble (held.focusOn options) given
  rw [snapshot_focusOn] at outcome
  exact ⟨held, outcome⟩

theorem brief_wellFormed_smallHistory :
    let session := (withSettings {}).run smallHistory
    (∃ brief, (session.brief "fix login" { maxTokens := some 225 }).2 = .ok brief ∧
      brief.compressionSteps.length = 6 ∧ brief.WellFormed session.snapshot) ∧
    ∃ brief, (session.brief "fix login" {}).2 = .ok brief ∧
      brief.files.map SelectedFile.summarized = [false, false] ∧
      brief.WellFormed session.snapshot ∧ brief.Verbatim session.snapshot := by
  obtain ⟨small, givenSmall, -, steps, -⟩ := brief_smallHistory
  obtain ⟨roomy, givenRoomy, whole, noSteps⟩ := brief_smallHistory_roomy
  obtain ⟨-, wellFormedSmall, -⟩ := brief_wellFormed givenSmall
  obtain ⟨-, wellFormedRoomy, verbatim⟩ := brief_wellFormed givenRoomy
  exact ⟨⟨small, givenSmall, steps, wellFormedSmall⟩,
    roomy, givenRoomy, whole, wellFormedRoomy, verbatim noSteps⟩

end Session

end CodeBrief
