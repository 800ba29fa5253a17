/-
**The intent of a query.**

What a developer wants is read off the words of a query: the kind of work, the files that are named,
the action and the scope. The rules are tried in a fixed order and the first one that applies
counts.

* `Intent.classify` — the intent of a query.
-/

import CodeBrief.Json.Value
import CodeBrief.Pattern.Scan
import CodeBrief.Text.Fold
import CodeBrief.Text.Lower
import CodeBrief.Text.Occurrence

namespace CodeBrief

/-- The kinds of work. -/
inductive IntentKind where
  /-- Finding and mending a fault. -/
  | debugging
  /-- Making something new. -/
  | creation
  /-- Changing the form of something. -/
  | refactoring
  /-- Explaining something. -/
  | explanation
  /-- Judging something. -/
  | analysis
  /-- Anything else. -/
  | general
  deriving DecidableEq, Repr, Inhabited

/-- The word for a kind. -/
def IntentKind.name : IntentKind → String
  | .debugging => "debugging"
  | .creation => "creation"
  | .refactoring => "refactoring"
  | .explanation => "explanation"
  | .analysis => "analysis"
  | .general => "general"

/-- All kinds. -/
def IntentKind.all : List IntentKind :=
  [.debugging, .creation, .refactoring, .explanation, .analysis, .general]

/-- How much of a project a query is about. -/
inductive IntentScope where
  /-- All of it. -/
  | project
  /-- A function. -/
  | function
  /-- A file. -/
  | file
  /-- Some place that is not named. -/
  | nearby
  deriving DecidableEq, Repr, Inhabited

/-- The word for a scope. -/
def IntentScope.name : IntentScope → String
  | .project => "project"
  | .function => "function"
  | .file => "file"
  | .nearby => "local"

/-- All scopes. -/
def IntentScope.all : List IntentScope :=
  [.project, .function, .file, .nearby]

/-- What a query asks for. -/
structure Intent where
  /-- The kind of work. -/
  kind : IntentKind := .general
  /-- The files that are named. -/
  targets : List String := []
  /-- The action, if one is named. -/
  action : Option String := none
  /-- The scope. -/
  scope : IntentScope := .nearby
  deriving DecidableEq, Repr, Inhabited

namespace Intent

/-- The words that show each kind, in the order in which the kinds are tried. -/
def kindRules : List (List String × IntentKind) :=
  [(["fix", "bug", "error", "issue"], .debugging),
    (["create", "add", "implement", "build"], .creation),
    (["refactor", "improve", "optimize"], .refactoring),
    (["explain", "understand", "what", "how"], .explanation),
    (["analyze", "review", "check"], .analysis)]

/-- The words that show each scope, in the order in which the scopes are tried. -/
def scopeRules : List (List String × IntentScope) :=
  [(["whole", "entire", "all", "project"], .project),
    (["function", "method"], .function),
    (["file", "module"], .file)]

/-- The words for actions, in the order in which they are tried. -/
def actionWords : List String :=
  ["create", "modify", "delete", "fix", "add", "remove", "update"]

/-- The result of the first rule one of whose words the query mentions, whatever the case. -/
def firstRule {α : Type} (query : List Char) (rules : List (List String × α)) (otherwise : α) : α :=
  match rules.find? fun rule => rule.1.any fun word => Text.mentions word.toList query with
  | some rule => rule.2
  | none => otherwise

open Pattern in
/-- Two ASCII words with a dot between them. -/
def target : Reader String := do
  let left ← runOf 1 Text.isAsciiWord
  literal "."
  let right ← runOf 1 Text.isAsciiWord
  return String.ofList (left ++ '.' :: right)

/-- The intent of a query. -/
def classify (query : String) : Intent where
  kind := firstRule query.toList kindRules .general
  targets := Pattern.found target query.toList
  action := actionWords.find? fun word => Text.occursIn word.toList (Text.lower query.toList)
  scope := firstRule query.toList scopeRules .nearby

/-- An intent as a JSON object. -/
def toJson (intent : Intent) : Json.Value :=
  .object [("type", .string intent.kind.name), ("targets", .ofTexts intent.targets),
    ("action", .ofText? intent.action), ("scope", .string intent.scope.name)]

end Intent

end CodeBrief
