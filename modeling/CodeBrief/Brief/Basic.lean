/-
**Briefs.**

A brief is what is handed on for one query: the files, functions and classes that matter for it,
what is known around them, and how much room the whole takes.

* `Brief` — the brief and what goes into it.
* `Brief.payload`, `Brief.toJson` — the brief as a JSON object, without and with the figures about
  its size.
* `Brief.isWritable` — whether the payload can be written.
* `Brief.tokens` — the estimated number of tokens of the payload.
-/

import CodeBrief.ImportGraph
import CodeBrief.Index
import CodeBrief.Project.Quality
import CodeBrief.Project.Architecture
import CodeBrief.Query.Intent
import CodeBrief.Session.Memory

namespace CodeBrief

/-- What a brief says about the project. -/
structure ProjectSummary where
  /-- The name. -/
  name : Option String := none
  /-- The language. -/
  language : Option String := none
  /-- The framework. -/
  framework : Option String := none
  /-- The description. -/
  description : Option String := none
  deriving DecidableEq, Repr, Inhabited

/-- A project summary as a JSON object. -/
def ProjectSummary.toJson (project : ProjectSummary) : Json.Value :=
  .object [("name", .ofText? project.name), ("language", .ofText? project.language),
    ("framework", .ofText? project.framework), ("description", .ofText? project.description)]

/-- A file in a brief. -/
structure SelectedFile where
  /-- The path. -/
  path : String
  /-- The text, or what is left of it. -/
  content : String
  /-- The score. -/
  relevance : Int := 0
  /-- Whether something has been cut out of the text. -/
  summarized : Bool := false
  deriving DecidableEq, Repr

/-- A file in a brief as a JSON object. -/
def SelectedFile.toJson (file : SelectedFile) : Json.Value :=
  .object [("path", .string file.path), ("content", .string file.content),
    ("relevance", .int file.relevance), ("summarized", .bool file.summarized)]

/-- What a brief says about a script. -/
def ScriptFacts.toJson (facts : ScriptFacts) : Json.Value :=
  .object [("imports", .ofTexts facts.imports), ("exports", .ofTexts facts.exports),
    ("complexity", .int facts.complexity)]

/-- A route as a JSON object. -/
def Script.Route.toJson (route : Script.Route) : Json.Value :=
  .object [("method", .string route.method), ("path", .string route.path),
    ("file", .string route.file)]

/-- What a brief says about the layout of a project. -/
structure LayoutSummary where
  /-- The entry points. -/
  entryPoints : List String := []
  /-- The names of the first modules. -/
  mainModules : List String := []
  /-- The first routes. -/
  routes : List Script.Route := []
  /-- The number of files. -/
  totalFiles : Int := 0
  deriving DecidableEq, Repr, Inhabited

/-- A layout summary as a JSON object. -/
def LayoutSummary.toJson (layout : LayoutSummary) : Json.Value :=
  .object [("entry_points", .ofTexts layout.entryPoints),
    ("main_modules", .ofTexts layout.mainModules),
    ("routes", .array (layout.routes.map Script.Route.toJson)),
    ("total_files", .int layout.totalFiles)]

/-- A function that is hard to follow. -/
structure HotSpot where
  /-- The key of the function. -/
  location : String
  /-- Its complexity. -/
  complexity : Int
  deriving DecidableEq, Repr

/-- A hot spot as a JSON object. -/
def HotSpot.toJson (spot : HotSpot) : Json.Value :=
  .object [("location", .string spot.location), ("complexity", .int spot.complexity)]

/-- The parts of the analysis that matter for a query. -/
structure AnalysisExcerpt where
  /-- The figures about the code. -/
  quality : Option Quality := none
  /-- The places that look bad. -/
  smells : Option (List CodeSmell) := none
  /-- The patterns of the project. -/
  patterns : Option (List ArchitecturalPattern) := none
  /-- The functions that are hardest to follow. -/
  hotSpots : Option (List HotSpot) := none
  deriving DecidableEq, Repr, Inhabited

/-- What `write` makes of a value, or null in its absence. -/
def Json.ValueOf.ofOption {α : Type} (write : α → Json.Value) : Option α → Json.Value
  | none => .null
  | some value => write value

/-- The values that `write` makes of the elements of a list. -/
def Json.ValueOf.ofList {α : Type} (write : α → Json.Value) (items : List α) : Json.Value :=
  .array (items.map write)

/-- An excerpt of the analysis as a JSON object. -/
def AnalysisExcerpt.toJson (excerpt : AnalysisExcerpt) : Json.Value :=
  .object [("quality", .ofOption Quality.toJson excerpt.quality),
    ("code_smells", .ofOption (.ofList CodeSmell.toJson) excerpt.smells),
    ("patterns", .ofOption (.ofList ArchitecturalPattern.toJson) excerpt.patterns),
    ("complexity", .ofOption (.ofList HotSpot.toJson) excerpt.hotSpots)]

/-- What is handed on for one query. -/
structure Brief where
  /-- The query. -/
  query : String := ""
  /-- The project. -/
  project : ProjectSummary := {}
  /-- The intent of the query. -/
  intent : Intent := {}
  /-- The files. -/
  files : List SelectedFile := []
  /-- The functions. -/
  functions : List FunctionRecord := []
  /-- The classes. -/
  classes : List ClassRecord := []
  /-- What is known about the scripts among the files. -/
  dependencies : Ledger ScriptFacts := ∅
  /-- The patterns of the project. -/
  patterns : List ArchitecturalPattern := []
  /-- The layout of the project. -/
  layout : LayoutSummary := {}
  /-- The excerpt of the analysis, if it is included. -/
  analysis : Option AnalysisExcerpt := none
  /-- What is remembered about the query, if it is included. -/
  memory : Option Memory.Recollection := none
  /-- The number of tokens that the brief should have at most. -/
  tokenBudget : Int := 0
  /-- The estimated number of tokens. -/
  estimatedTokens : Int := 0
  /-- Whether the brief has more tokens than it should have. -/
  overBudget : Bool := false
  /-- The names of the steps by which the brief has been made smaller. -/
  compressionSteps : List String := []
  deriving Inhabited

namespace Brief

/-- The members of the payload. -/
def payloadMembers (brief : Brief) : List (String × Json.Value) :=
  [("query", .string brief.query), ("project", brief.project.toJson),
    ("intent", brief.intent.toJson),
    ("relevant_files", .ofList SelectedFile.toJson brief.files),
    ("relevant_functions", .ofList FunctionRecord.toJson brief.functions),
    ("relevant_classes", .ofList ClassRecord.toJson brief.classes),
    ("dependencies", .object (brief.dependencies.mapValues fun _ facts => facts.toJson).entries),
    ("patterns", .ofList ArchitecturalPattern.toJson brief.patterns),
    ("structure", brief.layout.toJson),
    ("analysis", .ofOption AnalysisExcerpt.toJson brief.analysis),
    ("memory", .ofOption Memory.Recollection.toJson brief.memory)]

/-- The members that tell the size. -/
def sizeMembers (brief : Brief) : List (String × Json.Value) :=
  [("token_budget", .int brief.tokenBudget), ("estimated_tokens", .int brief.estimatedTokens),
    ("over_budget", .bool brief.overBudget),
    ("compression_steps", .ofTexts brief.compressionSteps)]

/-- The brief without the figures about its size. -/
def payload (brief : Brief) : Json.Value :=
  .object brief.payloadMembers

/-- The whole brief. -/
def toJson (brief : Brief) : Json.Value :=
  .object (brief.payloadMembers ++ brief.sizeMembers)

/-- Whether the payload can be written: nothing that is remembered in it is nested too deep. -/
def isWritable (brief : Brief) : Bool :=
  brief.memory.all Memory.Recollection.isWritable

/-- The text of the payload. -/
def payloadText (brief : Brief) : String :=
  Json.Style.compact.write brief.payload

/-- The estimated number of tokens of the payload. -/
def tokens (brief : Brief) : Nat :=
  recordTokens brief.payload

end Brief

end CodeBrief
