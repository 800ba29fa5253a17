/-
**Briefs as text.**

* `Brief.prompt` — the text that is handed to a language model: headings, then files, functions and
  classes with what is known around them.
* `Brief.overview` — a few lines about what a brief holds.
-/

import CodeBrief.Brief.Basic

namespace CodeBrief

/-- The text of an optional value that is neither absent nor empty. -/
def nonEmpty? : Option String → Option String
  | some text => if text.isEmpty then none else some text
  | none => none

/-- Lines one below the other. -/
def joinLines (lines : List String) : String :=
  "\n".intercalate lines

/-- Texts in a row. -/
def commaList (texts : List String) : String :=
  ", ".intercalate texts

/-- A whole number as text. -/
def intText (n : Int) : String :=
  String.ofList (Text.spellInt n)

/-- A whole number as text with commas between groups of three digits. -/
def groupedText (n : Int) : String :=
  String.ofList (Text.spellGrouped n)

namespace Brief

/-- What marks a file out of which something has been cut. -/
def cutMark (file : SelectedFile) : String :=
  if file.summarized then " (summarized)" else ""

/-- The lines about the query and the project. -/
def headLines (brief : Brief) : List String :=
  ["# Repository context for: " ++ brief.query,
    "# Project: " ++ (nonEmpty? brief.project.name).getD "unknown" ++
      " (language: " ++ (nonEmpty? brief.project.language).getD "unknown" ++
      ", framework: " ++ (nonEmpty? brief.project.framework).getD "none" ++ ")"] ++
  (match nonEmpty? brief.project.description with
    | some description => ["# " ++ description]
    | none => []) ++
  ["# Intent: " ++ brief.intent.kind.name ++ ", scope: " ++ brief.intent.scope.name ++
    (match nonEmpty? brief.intent.action with
      | some action => ", action: " ++ action
      | none => ""), ""]

/-- The lines of a section under a heading, and a blank one; nothing for a section without lines. -/
def sectionLines (heading : String) (lines : List String) : List String :=
  if lines.isEmpty then [] else heading :: lines ++ [""]

/-- The lines about the patterns. -/
def patternLines (brief : Brief) : List String :=
  sectionLines "## Architecture" <| brief.patterns.map fun pattern =>
    "- " ++ pattern.kind ++ " (confidence " ++
      String.ofList (Binary64.fixed 2 pattern.confidence) ++
      ")"

/-- The lines about the layout. -/
def layoutLines (brief : Brief) : List String :=
  sectionLines "## Structure" <|
    (if brief.layout.entryPoints.isEmpty then []
      else ["Entry points: " ++ commaList brief.layout.entryPoints]) ++
    brief.layout.routes.map fun route => "- " ++ route.method ++ " " ++ route.path

/-- The lines about a file. -/
def fileLines (brief : Brief) (file : SelectedFile) : List String :=
  ["## " ++ file.path ++ cutMark file] ++
  (match brief.dependencies.get? file.path with
    | some facts =>
      if facts.imports.isEmpty then [] else ["# imports: " ++ commaList facts.imports]
    | none => []) ++
  [file.content, ""]

/-- The lines about a function. -/
def functionLines (record : FunctionRecord) : List String :=
  ["### " ++ record.key ++ "(" ++ commaList record.params ++ ") complexity=" ++
    intText record.complexity] ++
  (if record.body.isEmpty then [] else [record.body])

/-- The lines about a class. -/
def classLines (record : ClassRecord) : List String :=
  ["### " ++ record.key ++
    (match nonEmpty? record.base with
      | some base => " extends " ++ base
      | none => ""),
    (nonEmpty? record.summary).getD ("methods: " ++ commaList record.methods)]

/-- The lines about the decisions that are remembered. -/
def decisionLines (brief : Brief) : List String :=
  match brief.memory with
  | some recollection =>
    sectionLines "## Earlier decisions" <| recollection.decisions.map fun decision =>
      "- [" ++ decision.impact.name ++ "] " ++ decision.description
  | none => []

/-- The lines of the prompt. -/
def promptLines (brief : Brief) : List String :=
  brief.headLines ++ brief.patternLines ++ brief.layoutLines ++
  brief.files.flatMap brief.fileLines ++
  sectionLines "## Functions" (brief.functions.flatMap functionLines) ++
  sectionLines "## Classes" (brief.classes.flatMap classLines) ++
  brief.decisionLines

/-- The text that is handed to a language model. -/
def prompt (brief : Brief) : String :=
  joinLines brief.promptLines

/-- A few lines about what a brief holds. -/
def overview (brief : Brief) : String :=
  joinLines <|
    ["Context for: " ++ brief.query,
      "Intent: " ++ brief.intent.kind.name ++ " (" ++ brief.intent.scope.name ++ ")",
      "Tokens: ~" ++ groupedText brief.estimatedTokens ++ " / " ++ groupedText brief.tokenBudget ++
        (if brief.overBudget then " [over budget]" else ""),
      "Files: " ++ intText brief.files.length ++ ", functions: " ++
        intText brief.functions.length ++ ", classes: " ++ intText brief.classes.length] ++
    (if brief.compressionSteps.isEmpty then []
      else ["Compression: " ++ commaList brief.compressionSteps]) ++
    [""] ++
    brief.files.map fun file =>
      "  " ++ file.path ++ " relevance=" ++ intText file.relevance ++ cutMark file

end Brief

end CodeBrief
