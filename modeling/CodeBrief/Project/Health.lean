/-
**Project health.**

A report on a project: its strengths and weaknesses, the opportunities and risks, a score from
nought to a hundred, and recommendations in the order of their priority.

* `healthScore` — the score of what is in a report.
* `recommendations` — what a report advises.
* `HealthReport.assess` — the report on the figures about a project.
-/

import CodeBrief.Order
import CodeBrief.Project.Architecture
import CodeBrief.Project.Quality

namespace CodeBrief

/-- A strength, weakness, opportunity or risk. -/
structure HealthItem where
  /-- What it concerns. -/
  area : String
  /-- What it is. -/
  description : String
  /-- The effect it has. -/
  impact : Option Severity := none
  /-- What to do about a weakness. -/
  suggestion : Option String := none
  /-- What an opportunity promises. -/
  potential : Option Severity := none
  /-- How grave a risk is. -/
  severity : Option Severity := none
  /-- What to do about a risk. -/
  mitigation : Option String := none
  deriving DecidableEq, Repr

/-- An advice. -/
structure Recommendation where
  /-- How pressing it is. -/
  priority : Severity
  /-- What it concerns. -/
  area : String
  /-- What to do. -/
  action : String
  /-- What it brings. -/
  impact : String
  /-- What it takes. -/
  effort : Severity
  deriving DecidableEq, Repr

/-- A report on a project. -/
structure HealthReport where
  /-- What is good. -/
  strengths : List HealthItem := []
  /-- What is bad. -/
  weaknesses : List HealthItem := []
  /-- What could be better. -/
  opportunities : List HealthItem := []
  /-- What could go wrong. -/
  risks : List HealthItem := []
  /-- The score. -/
  score : Int := 0
  /-- The advice. -/
  advice : List Recommendation := []
  deriving DecidableEq, Repr

/-! ### Score -/

/-- What a weakness of some impact costs. -/
def weaknessPenalty : Option Severity → Int
  | some .high => 15
  | some .medium => 10
  | some .low => 5
  | none => 0

/-- What a risk of some severity costs. -/
def riskPenalty : Option Severity → Int
  | some .high => 20
  | some .medium => 10
  | _ => 0

/-- The score of what is in a report. -/
def healthScore (report : HealthReport) : Int :=
  let points : Int := 50 + report.strengths.length * 10 -
    (report.weaknesses.map fun item => weaknessPenalty item.impact).foldr (· + ·) 0 -
    (report.risks.map fun item => riskPenalty item.severity).foldr (· + ·) 0
  max 0 (min 100 points)

/-! ### Advice -/

/-- The place of a priority among the priorities, the most pressing first. -/
def priorityRank : Severity → Nat
  | .high => 0
  | .medium => 1
  | .low => 2

/-- What to do about a grave risk. -/
def riskAdvice (item : HealthItem) : Recommendation :=
  ⟨.high, item.area, item.mitigation.getD "", "Reduces critical risk", .medium⟩

/-- What to do about a weakness of great impact. -/
def weaknessAdvice (item : HealthItem) : Recommendation :=
  ⟨.medium, item.area, item.suggestion.getD "", "Improves code quality", .medium⟩

/-- What to do about an opportunity. -/
def opportunityAdvice (item : HealthItem) : Recommendation :=
  ⟨.low, item.area, item.description, "Enhances capabilities", .high⟩

/-- The advice on the grave risks, on the weaknesses of great impact and on the first three
opportunities, the most pressing first. -/
def recommendations (report : HealthReport) : List Recommendation :=
  sortBy (fun left right => priorityRank left.priority ≤ priorityRank right.priority) <|
    (report.risks.filter fun item => item.severity = some .high).map riskAdvice ++
    (report.weaknesses.filter fun item => item.impact = some .high).map weaknessAdvice ++
    (report.opportunities.take 3).map opportunityAdvice

/-! ### The report -/

/-- The dependencies whose names are those of packages past their prime. -/
def outdatedDependencies (dependencies : List CodeText) : List CodeText :=
  dependencies.filter fun name =>
    let name := name.legible
    Text.contains name "jquery" || (Text.contains name "angular" && !Text.contains name "@angular")

/-- The item of a list if a condition holds. -/
def itemIf (condition : Bool) (item : HealthItem) : List HealthItem :=
  if condition then [item] else []

/-- What a report is made from. -/
structure Findings where
  /-- The metadata of the project. -/
  metadata : Metadata := {}
  /-- The patterns it follows. -/
  patterns : List ArchitecturalPattern := []
  /-- The figures about its code. -/
  quality : Quality := {}
  /-- The risky constructs in its code. -/
  security : List Script.SecurityFinding := []
  /-- The number of files with comments. -/
  commentedFiles : Nat := 0

/-- What is good about a project. -/
def strengthsOf (findings : Findings) : List HealthItem :=
  itemIf (findings.patterns.any fun pattern => (hundredths 80).lt pattern.confidence)
    { area := "Architecture", description := "Clear architectural patterns detected",
      impact := some .high } ++
  itemIf ((Binary64.ofNat 70).lt findings.quality.coverage)
    { area := "Testing",
      description := "Good test coverage (" ++
        String.ofList (Binary64.fixed 1 findings.quality.coverage) ++ "%)",
      impact := some .high } ++
  itemIf (!findings.metadata.dependencies.isEmpty)
    { area := "Dependencies", description := "Using modern libraries and frameworks",
      impact := some .medium }

/-- What is bad about a project. -/
def weaknessesOf (findings : Findings) : List HealthItem :=
  itemIf ((Binary64.ofNat 10).lt findings.quality.averageComplexity)
    { area := "Complexity",
      description := "High average complexity (" ++
        String.ofList (Binary64.fixed 1 findings.quality.averageComplexity) ++ ")",
      impact := some .high, suggestion := some "Consider breaking down complex functions" } ++
  itemIf (10 < findings.quality.smells.length)
    { area := "Code Quality",
      description := String.ofList (Text.spell findings.quality.smells.length) ++
        " code smells detected",
      impact := some .medium, suggestion := some "Refactor problematic areas" } ++
  itemIf (findings.commentedFiles < 5)
    { area := "Documentation", description := "Limited code documentation",
      impact := some .low, suggestion := some "Add JSDoc comments to main functions" }

/-- What could be better about a project. -/
def opportunitiesOf (findings : Findings) : List HealthItem :=
  itemIf ((findings.metadata.framework.getD "").isEmpty)
    { area := "Framework", description := "Could benefit from a modern framework",
      potential := some .high } ++
  itemIf (findings.quality.coverage.lt (.ofNat 50))
    { area := "Testing", description := "Increase test coverage for better reliability",
      potential := some .high }

/-- What could go wrong with a project. -/
def risksOf (findings : Findings) : List HealthItem :=
  let outdated := outdatedDependencies findings.metadata.dependencies
  itemIf (!outdated.isEmpty)
    { area := "Dependencies",
      description := String.ofList (Text.spell outdated.length) ++
        " potentially outdated dependencies",
      severity := some .medium, mitigation := some "Update dependencies regularly" } ++
  itemIf (!findings.security.isEmpty)
    { area := "Security",
      description := String.ofList (Text.spell findings.security.length) ++
        " potential security issues",
      severity := some .high, mitigation := some "Review and fix security vulnerabilities" }

/-- The report on a project. -/
def HealthReport.assess (findings : Findings) : HealthReport :=
  let report : HealthReport :=
    { strengths := strengthsOf findings
      weaknesses := weaknessesOf findings
      opportunities := opportunitiesOf findings
      risks := risksOf findings }
  { report with score := healthScore report, advice := recommendations report }

end CodeBrief
