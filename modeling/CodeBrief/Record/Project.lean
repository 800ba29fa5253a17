/-
**Reading records of projects.**

What is known about a project is read back from JSON objects: metadata, layout, patterns and reports
on its health.

* `Metadata.ofMembers`, `Structure.ofMembers` — metadata and layout.
* `HealthReport.ofMembers` — a report.
-/

import CodeBrief.Project.Health
import CodeBrief.Record.Code

namespace CodeBrief

open Settings (Checked required optional readSection readList readLedger readOption)
open Settings (textField textsField wholeField numberField)
open Json (Value)

/-- A text of code points. -/
def codeTextField (value : Value) : Checked CodeText :=
  (textField value).map .ofString

/-- The metadata with some members. -/
def Metadata.ofMembers (members : List (String × Value)) : Checked Metadata :=
  .ok Metadata.mk |>
    Checked.plus (optional members "name" (readOption codeTextField) none) |>
    Checked.plus (optional members "language" (readOption textField) none) |>
    Checked.plus (optional members "framework" (readOption textField) none) |>
    Checked.plus (optional members "dependencies" (readList codeTextField) []) |>
    Checked.plus (optional members "version" (readOption codeTextField) none) |>
    Checked.plus (optional members "description" (readOption codeTextField) none)

/-- The module with some members. -/
def ModuleInfo.ofMembers (members : List (String × Value)) : Checked ModuleInfo :=
  .ok ModuleInfo.mk |>
    Checked.plus (required members "path" textField) |>
    Checked.plus (optional members "type" textField "module") |>
    Checked.plus (optional members "dependencies" textsField [])

/-- The configuration file with some members. -/
def ConfigFile.ofMembers (members : List (String × Value)) : Checked ConfigFile :=
  .ok ConfigFile.mk |>
    Checked.plus (required members "path" textField) |>
    Checked.plus (optional members "type" textField "config")

/-- A list of routes. -/
def Script.Route.listField : Value → Checked (List Script.Route) :=
  readList (readSection "Route" Script.Route.ofMembers)

/-- The layout with some members. -/
def Structure.ofMembers (members : List (String × Value)) : Checked Structure :=
  .ok Structure.mk |>
    Checked.plus (optional members "tree" textsField []) |>
    Checked.plus
      (optional members "modules" (readLedger (readSection "ModuleInfo" ModuleInfo.ofMembers)) ∅) |>
    Checked.plus (optional members "entry_points" textsField []) |>
    Checked.plus (optional members "routes" Script.Route.listField []) |>
    Checked.plus
      (optional members "configs" (readLedger (readSection "ConfigFile" ConfigFile.ofMembers)) ∅)

/-- The pattern with some members. -/
def ArchitecturalPattern.ofMembers (members : List (String × Value)) :
    Checked ArchitecturalPattern :=
  .ok ArchitecturalPattern.mk |>
    Checked.plus (required members "type" textField) |>
    Checked.plus (required members "confidence" numberField) |>
    Checked.plus (optional members "evidence" textsField [])

/-- A list of patterns. -/
def ArchitecturalPattern.listField : Value → Checked (List ArchitecturalPattern) :=
  readList (readSection "ArchitecturalPattern" ArchitecturalPattern.ofMembers)

/-- The item of a report with some members. -/
def HealthItem.ofMembers (members : List (String × Value)) : Checked HealthItem :=
  .ok HealthItem.mk |>
    Checked.plus (required members "area" textField) |>
    Checked.plus (required members "description" textField) |>
    Checked.plus (optional members "impact" (readOption Severity.field) none) |>
    Checked.plus (optional members "suggestion" (readOption textField) none) |>
    Checked.plus (optional members "potential" (readOption Severity.field) none) |>
    Checked.plus (optional members "severity" (readOption Severity.field) none) |>
    Checked.plus (optional members "mitigation" (readOption textField) none)

/-- A list of items of a report. -/
def HealthItem.listField : Value → Checked (List HealthItem) :=
  readList (readSection "HealthItem" HealthItem.ofMembers)

/-- The advice with some members. -/
def Recommendation.ofMembers (members : List (String × Value)) : Checked Recommendation :=
  .ok Recommendation.mk |>
    Checked.plus (required members "priority" Severity.field) |>
    Checked.plus (required members "area" textField) |>
    Checked.plus (required members "action" textField) |>
    Checked.plus (required members "impact" textField) |>
    Checked.plus (required members "effort" Severity.field)

/-- The report with some members. -/
def HealthReport.ofMembers (members : List (String × Value)) : Checked HealthReport :=
  .ok HealthReport.mk |>
    Checked.plus (optional members "strengths" HealthItem.listField []) |>
    Checked.plus (optional members "weaknesses" HealthItem.listField []) |>
    Checked.plus (optional members "opportunities" HealthItem.listField []) |>
    Checked.plus (optional members "risks" HealthItem.listField []) |>
    Checked.plus (optional members "score" wholeField 0) |>
    Checked.plus (optional members "recommendations"
      (readList (readSection "Recommendation" Recommendation.ofMembers)) [])

end CodeBrief
