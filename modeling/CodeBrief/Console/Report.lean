/-
**What the console shows.**

The texts that a session shows: notices, the figures about a snapshot, the summary of a brief, and
the report on the health of a project, each as lines for a console of some width.

* `Notice.lines` — a notice.
* `statsLines`, `summaryLines`, `healthLines` — figures, summary and report.
-/

import CodeBrief.Brief.Prompt
import CodeBrief.Console.Markup
import CodeBrief.Console.Panel
import CodeBrief.Console.Table
import CodeBrief.Project.Snapshot

namespace CodeBrief.Console

/-- The version of the program. -/
def version : String := "0.1.0"

/-- Lines as one text, with a line feed after each. -/
def textOf (lines : List Line) : String :=
  String.ofList (lines.flatMap fun line => line ++ ['\n'])

/-- Lines as a console of some width shows them: one without cells shows nothing. -/
def onConsole (width : Nat) (lines : List Line) : List Line :=
  if width = 0 then [] else lines

/-- The lines of a text with markup. -/
def markupLines (width : Nat) (text : String) : Except Markup.Problem (List Line) :=
  (Markup.plain text).map fun plain => onConsole width (wrap width .ragged .fold plain)

/-- A text with markup, which is not even looked at where there is no room for it. -/
def plainIf (room : Bool) (text : String) : Except Markup.Problem (List Char) :=
  if room then Markup.plain text else .ok []

/-- The lines of a text without markup. -/
def plainLines (width : Nat) (text : String) : List Line :=
  onConsole width (wrap width .ragged .fold (Markup.shown text))

/-! ### Notices -/

/-- The kinds of notices. -/
inductive Notice where
  /-- Something has been done. -/
  | success
  /-- Something cannot be done. -/
  | error
  /-- Something deserves attention. -/
  | warning
  /-- Something is going on. -/
  | info
  deriving DecidableEq, Repr

namespace Notice

/-- The colour of the mark of a notice. -/
def colour : Notice → String
  | .success => "green"
  | .error => "red"
  | .warning => "yellow"
  | .info => "blue"

/-- The mark of a notice. -/
def mark : Notice → String
  | .success => "✓"
  | .error => "✗"
  | .warning => "!"
  | .info => "i"

/-- The lines of a notice; the message may have markup. -/
def lines (width : Nat) (notice : Notice) (message : String) :
    Except Markup.Problem (List Line) :=
  markupLines width
    ("[" ++ notice.colour ++ "]" ++ notice.mark ++ "[/" ++ notice.colour ++ "] " ++ message)

end Notice

/-! ### Banner -/

/-- The lines that introduce the program. -/
def bannerLines (width : Nat) : List Line :=
  onConsole width <| panel width ⟨1, 2⟩ none
    ("repoctx v" ++ version ++ "\nRelevance-ranked, budgeted repository context").toList

/-! ### Figures -/

/-- The texts of some rows with two cells, with a section ending at the last one. -/
def sectionRows (room : Bool) (rows : List (String × String)) :
    Except Markup.Problem (List Row) := do
  let plain ← rows.mapM fun (name, value) => do
    return [← plainIf room name, ← plainIf room value]
  return plain.zipIdx.map fun (cells, number) => ⟨cells, number + 1 == rows.length⟩

/-- An optional text, or a dash if there is none. -/
def orDash (text : Option String) : String :=
  (nonEmpty? text).getD "-"

/-- A count as text. -/
def countText (n : Nat) : String :=
  intText n

/-- The sections with the figures about a snapshot. -/
def statsSections (snapshot : Snapshot) : List (List (String × String)) :=
  [[("Name", orDash (snapshot.metadata.name.map CodeText.legible)), ("Language", orDash snapshot.metadata.language),
      ("Framework", orDash snapshot.metadata.framework)],
    [("Files", countText snapshot.index.files.size),
      ("Functions", intText snapshot.quality.totalFunctions),
      ("Classes", intText snapshot.quality.totalClasses),
      ("Modules", countText snapshot.layout.modules.size),
      ("Routes", countText snapshot.layout.routes.length)],
    [("Script files in graph", countText snapshot.graph.scripts.size),
      ("Resolved imports", countText snapshot.graph.edges.length),
      ("Circular groups", countText snapshot.graph.cycles.length)],
    [("Avg complexity", String.ofList (Binary64.fixed 1 snapshot.quality.averageComplexity)),
      ("Code smells", countText snapshot.quality.smells.length),
      ("Security findings", countText snapshot.security.length)],
    snapshot.patterns.map fun pattern =>
      ("  " ++ pattern.kind, String.ofList (Binary64.fixed 2 pattern.confidence))]

/-- The lines of the figures about a snapshot. -/
def statsLines (width : Nat) (snapshot : Snapshot) : Except Markup.Problem (List Line) := do
  let sections ← (statsSections snapshot).mapM (sectionRows (Table.hasRoom width 2))
  let table : Table :=
    { title := "Repository Analysis".toList
      columns := [⟨"Metric".toList, .left⟩, ⟨"Value".toList, .right⟩]
      rows := sections.flatten }
  return onConsole width (table.lines width)

/-! ### Briefs -/

/-- The texts of the summary of a brief. -/
def summaryTexts (brief : Brief) : List String :=
  ["", "Context",
    "  Intent: " ++ brief.intent.kind.name ++ " (" ++ brief.intent.scope.name ++ ")",
    "  Tokens: " ++ groupedText brief.estimatedTokens ++ " / " ++ groupedText brief.tokenBudget,
    "  Files: " ++ countText brief.files.length ++ "  Functions: " ++
      countText brief.functions.length ++ "  Classes: " ++ countText brief.classes.length] ++
  (if brief.compressionSteps.isEmpty then []
    else ["  Compression: " ++ commaList brief.compressionSteps])

/-- The lines of the summary of a brief. -/
def summaryLines (width : Nat) (brief : Brief) : Except Markup.Problem (List Line) := do
  let texts ← (summaryTexts brief).mapM (markupLines width)
  let warning ← if brief.overBudget then
      Notice.lines width .warning "Context is still over budget after compression"
    else .ok []
  return onConsole width (texts.flatten ++ warning ++ [[]])

/-! ### Health -/

/-- The texts of the items of a report under a heading, if there are any. -/
def itemTexts (heading : String) (items : List HealthItem) : List String :=
  if items.isEmpty then []
  else heading :: items.map fun item => "  " ++ item.area ++ ": " ++ item.description

/-- The text of a report. -/
def healthText (report : HealthReport) : String :=
  joinLines <|
    ["Score: " ++ intText report.score ++ "/100", ""] ++
    itemTexts "Strengths" report.strengths ++
    itemTexts "Weaknesses" report.weaknesses ++
    itemTexts "Opportunities" report.opportunities ++
    itemTexts "Risks" report.risks

/-- The row for an advice. -/
def adviceRow (room : Bool) (advice : Recommendation) : Except Markup.Problem Row := do
  return ⟨[advice.priority.name.toList, ← plainIf room advice.area, ← plainIf room advice.action,
    ← plainIf room advice.impact], false⟩

/-- The lines of the advice of a report. -/
def adviceLines (width : Nat) (advice : List Recommendation) :
    Except Markup.Problem (List Line) := do
  if advice.isEmpty then return []
  let table : Table :=
    { title := "Recommendations".toList
      columns := ["Priority", "Area", "Action", "Impact"].map fun heading => ⟨heading.toList, .left⟩
      rows := ← advice.mapM (adviceRow (Table.hasRoom width 4)) }
  return table.lines width

/-- The lines of a report. -/
def healthLines (width : Nat) (report : HealthReport) : Except Markup.Problem (List Line) := do
  let padding : Padding := ⟨0, 1⟩
  let text ← plainIf (padding.hasRoom width) (healthText report)
  let advice ← adviceLines width report.advice
  return onConsole width (panel width padding (some "Project Health".toList) text ++ advice)

end CodeBrief.Console
