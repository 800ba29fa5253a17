/-
**Reading records of code.**

What is known about code is read back from JSON objects: functions, classes, routes, scripts, the
places that look bad, and the figures. Members that may be left out have their defaults, and members
of other names are passed over.

* `FunctionRecord.ofMembers`, `ClassRecord.ofMembers` — a function and a class.
* `Quality.ofMembers` — the figures about some code.
-/

import CodeBrief.ImportGraph
import CodeBrief.Project.Quality
import CodeBrief.Settings.Field

namespace CodeBrief

open Settings (Checked required optional readSection readList readOption)
open Settings (textField textsField wholeField numberField truthField namedField)
open Json (Value)

/-- A level. -/
def Severity.field : Value → Checked Severity :=
  namedField [("low", .low), ("medium", .medium), ("high", .high)]

/-- The function with some members. -/
def FunctionRecord.ofMembers (members : List (String × Value)) : Checked FunctionRecord :=
  .ok FunctionRecord.mk |>
    Checked.plus (required members "name" textField) |>
    Checked.plus (required members "path" textField) |>
    Checked.plus (optional members "params" textsField []) |>
    Checked.plus (optional members "body" textField "") |>
    Checked.plus (optional members "complexity" wholeField 1) |>
    Checked.plus (optional members "calls" textsField []) |>
    Checked.plus (optional members "summarized" truthField false)

/-- The class with some members. -/
def ClassRecord.ofMembers (members : List (String × Value)) : Checked ClassRecord :=
  .ok ClassRecord.mk |>
    Checked.plus (required members "name" textField) |>
    Checked.plus (required members "path" textField) |>
    Checked.plus (optional members "methods" textsField []) |>
    Checked.plus (optional members "properties" textsField []) |>
    Checked.plus (optional members "extends" (readOption textField) none) |>
    Checked.plus (optional members "body" textField "") |>
    Checked.plus (optional members "summary" (readOption textField) none)

/-- The route with some members. -/
def Script.Route.ofMembers (members : List (String × Value)) : Checked Script.Route :=
  .ok Script.Route.mk |>
    Checked.plus (required members "method" textField) |>
    Checked.plus (required members "path" textField) |>
    Checked.plus (optional members "file" textField "")

/-- The facts about a script with some members. -/
def ScriptFacts.ofMembers (members : List (String × Value)) : Checked ScriptFacts :=
  .ok ScriptFacts.mk |>
    Checked.plus (optional members "imports" textsField []) |>
    Checked.plus (optional members "exports" textsField []) |>
    Checked.plus (optional members "complexity" wholeField 1)

/-- The risky construct with some members. -/
def Script.SecurityFinding.ofMembers (members : List (String × Value)) :
    Checked Script.SecurityFinding :=
  .ok Script.SecurityFinding.mk |>
    Checked.plus (required members "type" textField) |>
    Checked.plus (required members "path" textField) |>
    Checked.plus (required members "line" wholeField) |>
    Checked.plus (required members "severity" Severity.field)

/-- The smell with some members. -/
def CodeSmell.ofMembers (members : List (String × Value)) : Checked CodeSmell :=
  .ok CodeSmell.mk |>
    Checked.plus (required members "type" textField) |>
    Checked.plus (required members "location" textField) |>
    Checked.plus (required members "severity" Severity.field) |>
    Checked.plus (optional members "complexity" (readOption wholeField) none)

/-- A list of smells. -/
def CodeSmell.listField : Value → Checked (List CodeSmell) :=
  readList (readSection "CodeSmell" CodeSmell.ofMembers)

/-- The figures with some members. -/
def Quality.ofMembers (members : List (String × Value)) : Checked Quality :=
  let usual : Quality := {}
  .ok Quality.mk |>
    Checked.plus (optional members "total_files" wholeField 0) |>
    Checked.plus (optional members "total_functions" wholeField 0) |>
    Checked.plus (optional members "total_classes" wholeField 0) |>
    Checked.plus (optional members "avg_complexity" numberField usual.averageComplexity) |>
    Checked.plus (optional members "code_smells" CodeSmell.listField []) |>
    Checked.plus (optional members "coverage" numberField usual.coverage)

end CodeBrief
