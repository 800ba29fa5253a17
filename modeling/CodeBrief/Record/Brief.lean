/-
**Reading briefs.**

A brief is read back from a JSON object, with all that goes into it. What has been remembered
without a moment is given the present one.

* `Intent.ofMembers` — an intent.
* `Memory.Recollection.ofMembers` — what is remembered about a query.
* `Brief.ofMembers` — a brief.
-/

import CodeBrief.Brief.Basic
import CodeBrief.Record.Project

namespace CodeBrief

open Settings (Checked required optional readSection readList readLedger readOption)
open Settings (textField textsField wholeField truthField momentField namedField)
open Json (Value)

/-- A kind of work. -/
def IntentKind.field : Value → Checked IntentKind :=
  namedField (IntentKind.all.map fun kind => (kind.name, kind))

/-- A scope. -/
def IntentScope.field : Value → Checked IntentScope :=
  namedField (IntentScope.all.map fun scope => (scope.name, scope))

/-- The intent with some members. -/
def Intent.ofMembers (members : List (String × Value)) : Checked Intent :=
  .ok Intent.mk |>
    Checked.plus (optional members "type" IntentKind.field .general) |>
    Checked.plus (optional members "targets" textsField []) |>
    Checked.plus (optional members "action" (readOption textField) none) |>
    Checked.plus (optional members "scope" IntentScope.field .nearby)

/-- The project summary with some members. -/
def ProjectSummary.ofMembers (members : List (String × Value)) : Checked ProjectSummary :=
  .ok ProjectSummary.mk |>
    Checked.plus (optional members "name" (readOption textField) none) |>
    Checked.plus (optional members "language" (readOption textField) none) |>
    Checked.plus (optional members "framework" (readOption textField) none) |>
    Checked.plus (optional members "description" (readOption textField) none)

/-- The file with some members. -/
def SelectedFile.ofMembers (members : List (String × Value)) : Checked SelectedFile :=
  .ok SelectedFile.mk |>
    Checked.plus (required members "path" textField) |>
    Checked.plus (required members "content" textField) |>
    Checked.plus (optional members "relevance" wholeField 0) |>
    Checked.plus (optional members "summarized" truthField false)

/-- The layout summary with some members. -/
def LayoutSummary.ofMembers (members : List (String × Value)) : Checked LayoutSummary :=
  .ok LayoutSummary.mk |>
    Checked.plus (optional members "entry_points" textsField []) |>
    Checked.plus (optional members "main_modules" textsField []) |>
    Checked.plus (optional members "routes" Script.Route.listField []) |>
    Checked.plus (optional members "total_files" wholeField 0)

/-- The hot spot with some members. -/
def HotSpot.ofMembers (members : List (String × Value)) : Checked HotSpot :=
  .ok HotSpot.mk |>
    Checked.plus (required members "location" textField) |>
    Checked.plus (required members "complexity" wholeField)

/-- The excerpt of the analysis with some members. -/
def AnalysisExcerpt.ofMembers (members : List (String × Value)) : Checked AnalysisExcerpt :=
  .ok AnalysisExcerpt.mk |>
    Checked.plus (optional members "quality"
      (readOption (readSection "QualityMetrics" Quality.ofMembers)) none) |>
    Checked.plus (optional members "code_smells" (readOption CodeSmell.listField) none) |>
    Checked.plus
      (optional members "patterns" (readOption ArchitecturalPattern.listField) none) |>
    Checked.plus (optional members "complexity"
      (readOption (readList (readSection "HotSpot" HotSpot.ofMembers))) none)

/-- The conversation with some members, at the moment `now` if none is told. -/
def Conversation.ofMembers (now : Moment) (members : List (String × Value)) :
    Checked Conversation :=
  .ok Conversation.mk |>
    Checked.plus (required members "query" textField) |>
    Checked.plus (required members "response" textField) |>
    Checked.plus (optional members "timestamp" momentField now) |>
    Checked.plus (optional members "context" .ok .null)

/-- The decision with some members, at the moment `now` if none is told. -/
def Decision.ofMembers (now : Moment) (members : List (String × Value)) : Checked Decision :=
  .ok Decision.mk |>
    Checked.plus (required members "description" textField) |>
    Checked.plus (required members "decision" textField) |>
    Checked.plus (optional members "timestamp" momentField now) |>
    Checked.plus (optional members "impact" Severity.field .low)

/-- What is remembered about a query, with some members. -/
def Memory.Recollection.ofMembers (now : Moment) (members : List (String × Value)) :
    Checked Memory.Recollection :=
  .ok Memory.Recollection.mk |>
    Checked.plus (optional members "recent_conversations"
      (readList (readSection "ConversationEntry" (Conversation.ofMembers now))) []) |>
    Checked.plus (optional members "relevant_decisions"
      (readList (readSection "DecisionEntry" (Decision.ofMembers now))) []) |>
    Checked.plus (optional members "similar_queries" textsField [])

/-- The brief with some members, read at the moment `now`. -/
def Brief.ofMembers (now : Moment) (members : List (String × Value)) : Checked Brief :=
  .ok Brief.mk |>
    Checked.plus (optional members "query" textField "") |>
    Checked.plus
      (optional members "project" (readSection "ProjectSummary" ProjectSummary.ofMembers) {}) |>
    Checked.plus (optional members "intent" (readSection "QueryIntent" Intent.ofMembers) {}) |>
    Checked.plus (optional members "relevant_files"
      (readList (readSection "SelectedFile" SelectedFile.ofMembers)) []) |>
    Checked.plus (optional members "relevant_functions"
      (readList (readSection "FunctionRecord" FunctionRecord.ofMembers)) []) |>
    Checked.plus (optional members "relevant_classes"
      (readList (readSection "ClassRecord" ClassRecord.ofMembers)) []) |>
    Checked.plus (optional members "dependencies"
      (readLedger (readSection "DependencyExcerpt" ScriptFacts.ofMembers)) ∅) |>
    Checked.plus (optional members "patterns" ArchitecturalPattern.listField []) |>
    Checked.plus
      (optional members "structure" (readSection "StructureSummary" LayoutSummary.ofMembers) {}) |>
    Checked.plus (optional members "analysis"
      (readOption (readSection "RelevantAnalysis" AnalysisExcerpt.ofMembers)) none) |>
    Checked.plus (optional members "memory"
      (readOption (readSection "RelevantMemory" (Memory.Recollection.ofMembers now))) none) |>
    Checked.plus (optional members "token_budget" wholeField 0) |>
    Checked.plus (optional members "estimated_tokens" wholeField 0) |>
    Checked.plus (optional members "over_budget" truthField false) |>
    Checked.plus (optional members "compression_steps" textsField [])

end CodeBrief
