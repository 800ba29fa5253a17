/-
**Sessions.**

A session works on one repository: it has the settings, what it remembers, and the snapshot of the
last analysis. An analysis that fails leaves the session as it is.

* `Session.analyze` — takes a new snapshot of a listing whose files a loader loads.
* `Session.analyzeTree` — takes a new snapshot of a file tree.
* `Session.remember`, `Session.touch` — what the session remembers from now on.
* `Session.brief` — the brief for a query.
-/

import CodeBrief.Brief.Compression
import CodeBrief.Brief.Selection
import CodeBrief.Project.Snapshot
import CodeBrief.Repository.Fetch
import CodeBrief.Repository.Listing
import CodeBrief.Settings.Basic

namespace CodeBrief

/-! ### Putting a brief together -/

/-- What is asked of a brief; what is left open is as the settings say. -/
structure BriefOptions where
  /-- The number of tokens that the brief should have at most. -/
  maxTokens : Option Int := none
  /-- Whether the analysis is included. -/
  includeAnalysis : Option Bool := none
  /-- Whether the memory is included. -/
  includeMemory : Option Bool := none
  /-- The area that the session is about from now on. -/
  focus : Option String := none
  deriving DecidableEq, Repr, Inhabited

/-- The complexity above which a function is a hot spot. -/
def hotSpotThreshold : Int := 10

/-- The greatest number of hot spots in a brief. -/
def maxHotSpots : Nat := 5

/-- The greatest number of modules in a brief. -/
def maxMainModules : Nat := 10

/-- The greatest number of routes in a brief. -/
def maxRoutes : Nat := 20

namespace Snapshot

/-- What a brief says about the project, unless its name or its description cannot be encoded. -/
def summary (snapshot : Snapshot) : Except CodeText.EncodeError ProjectSummary := do
  let metadata := snapshot.metadata
  let name ← metadata.name.mapM CodeText.encode
  let description ← metadata.description.mapM CodeText.encode
  return { name, language := metadata.language, framework := metadata.framework, description }

/-- What a brief says about the layout. -/
def layoutSummary (snapshot : Snapshot) : LayoutSummary where
  entryPoints := snapshot.layout.entryPoints
  mainModules := snapshot.layout.modules.names.take maxMainModules
  routes := snapshot.layout.routes.take maxRoutes
  totalFiles := snapshot.index.files.size

/-- The hot spots: the most complex functions, the most complex one first. -/
def hotSpots (snapshot : Snapshot) : List HotSpot :=
  let spots := (snapshot.index.functions.entries.filter fun (_, record) =>
    hotSpotThreshold < record.complexity).map fun (key, record) =>
      (⟨key, record.complexity⟩ : HotSpot)
  (sortBy (fun left right => right.complexity ≤ left.complexity) spots).take maxHotSpots

/-- The parts of the analysis that matter for a kind of work. -/
def excerpt (snapshot : Snapshot) (kind : IntentKind) : AnalysisExcerpt :=
  match kind with
  | .debugging | .analysis =>
    { quality := some snapshot.quality, smells := some snapshot.quality.smells }
  | .refactoring =>
    { patterns := some snapshot.patterns, hotSpots := some snapshot.hotSpots }
  | _ => {}

/-- What the import graph knows about the scripts among some files. -/
def scriptsAmong (snapshot : Snapshot) (files : List SelectedFile) : Ledger ScriptFacts :=
  .ofList <| files.filterMap fun file =>
    (snapshot.graph.scripts.get? file.path).map fun facts => (file.path, facts)

/-- The brief with a selection for a query, before its size is looked at. -/
def briefOf (snapshot : Snapshot) (project : ProjectSummary) (query : String) (intent : Intent)
    (selection : Selection) : Brief where
  query := query
  project := project
  intent := intent
  files := selection.files
  functions := selection.functions
  classes := selection.classes
  dependencies := snapshot.scriptsAmong selection.files
  patterns := snapshot.patterns
  layout := snapshot.layoutSummary

end Snapshot

/-- Why there is no brief for a query. -/
inductive BriefError where
  /-- There is no budget for what is selected. -/
  | budget (error : BudgetError)
  /-- What the manifest calls the project cannot be encoded. -/
  | unencodable (error : CodeText.EncodeError)
  /-- The brief cannot be brought to its size. -/
  | size (error : SizeError)
  deriving DecidableEq, Repr

/-- The wording of an error. -/
def BriefError.message : BriefError → String
  | .budget error => error.message
  | .unencodable error => "Error serializing to JSON: UnicodeEncodeError: " ++ error.message
  | .size error => error.message

/-! ### Sessions -/

/-- Work on one repository. -/
structure Session where
  /-- The settings. -/
  settings : Settings := {}
  /-- What is remembered. -/
  memory : Memory := {}
  /-- The last snapshot. -/
  snapshot : Snapshot := {}
  deriving Inhabited

/-- Why an analysis fails. -/
inductive AnalysisError where
  /-- A loader fails. -/
  | loader (failure : LoaderFailure)
  /-- A manifest cannot be read. -/
  | manifest (problem : Manifest.Problem)
  /-- It cannot be told which paths are left out. -/
  | ignoreFile (error : FileTree.IgnoreError)
  deriving Repr

namespace Session

/-! ### Looking at a repository -/

/-- A session with some settings that has seen nothing yet. -/
def withSettings (settings : Settings) : Session where
  settings := settings
  memory := .withLimits settings.memory

/-- A session with the snapshot of a listing whose files `loader` loads, and the progress of
loading; `choices` tells which of the loads under way are finished next, and `room` how deep values
may lie within each other in a manifest. -/
def analyze (session : Session) (room : Nat) (entries : List Entry) (loader : Loader)
    (choices : List Nat) : Except AnalysisError (Session × List Progress) := do
  let schedule : Schedule := ⟨session.settings.listing.maxConcurrent, choices⟩
  let (files, progress) ← (fetch schedule entries loader).mapError .loader
  let snapshot ← (Snapshot.ofContents room (Entry.filePaths entries) files).mapError .manifest
  return ({ session with snapshot }, progress)

/-- A loader of the files of a tree. -/
def treeLoader (tree : FileTree) : Loader := fun path =>
  match tree.load path with
  | .ok content => .text content
  | .error .missing => .missing
  | .error .overlong => .unreadable

/-- A session with the snapshot of a tree. -/
def analyzeTree (session : Session) (room : Nat) (tree : FileTree) :
    Except AnalysisError Session := do
  let listing := session.settings.listing
  let entries ← (tree.list listing.excludePatterns listing.maxFileSize).mapError .ignoreFile
  return (← session.analyze room entries (treeLoader tree) []).1

/-! ### Remembering -/

/-- The session after an exchange has been remembered at some moment. -/
def remember (session : Session) (now : Moment) (exchange : Exchange) : Session :=
  { session with memory := session.memory.record now exchange }

/-- The session after a file has been touched. -/
def touch (session : Session) (path : String) : Session :=
  { session with memory := session.memory.touch path }

/-- The session with its focus set or cleared. -/
def setFocus (session : Session) (focus : Option String) : Session :=
  { session with memory := session.memory.setFocus focus }

/-! ### Asking for a brief -/

/-- A session that is about the area that `options` name, if they do. -/
def focusOn (session : Session) (options : BriefOptions) : Session :=
  match options.focus with
  | some area => session.setFocus area
  | none => session

/-- The scores of everything for a query. -/
def scores (session : Session) (query : String) (intent : Intent) : Ledger Int :=
  Relevance.scores session.snapshot.index session.snapshot.graph session.memory.recentFiles query
    intent

/-- The brief for a query. -/
def assemble (session : Session) (query : String) (options : BriefOptions) :
    Except BriefError Brief := do
  let usual := session.settings.brief
  let budget := options.maxTokens.getD usual.maxTokens
  let intent := Intent.classify query
  let room ← (workingBudget usual.metadataReserve budget).mapError .budget
  let project ← session.snapshot.summary.mapError .unencodable
  let scores := session.scores query intent
  let selection := Selection.choose session.snapshot.index scores.entries room
  let brief := session.snapshot.briefOf project query intent selection
  let analysis := if options.includeAnalysis.getD usual.includeAnalysis then
    some (session.snapshot.excerpt intent.kind) else none
  let memory := if options.includeMemory.getD usual.includeMemory then
    some (session.memory.recollect query) else none
  ({ brief with analysis, memory }.withBudget budget).mapError .size

/-- The session after a query and the brief for it; the focus is set even if there is no brief. -/
def brief (session : Session) (query : String) (options : BriefOptions) :
    Session × Except BriefError Brief :=
  let focused := session.focusOn options
  (focused, focused.assemble query options)

end Session

end CodeBrief
