/-
**Relevance.**

Every file, function and class of an index is scored for a query. A file scores for being named, for
each occurrence of the longer words of the query, for fitting the intent, for its place in the graph
of imports and for having been touched lately. A function or class has the score of its file, and
more if the query names it.

* `Relevance.fileScore` — the score of a file.
* `Relevance.scores` — the scores of everything, files first, under keys that tell the kind.
-/

import CodeBrief.ImportGraph
import CodeBrief.Index
import CodeBrief.Query.Intent
import CodeBrief.Text.Lower

namespace CodeBrief.Relevance

/-- The words of a query in lower case. -/
def queryWords (query : String) : List String :=
  (Text.words (Text.lower query.toList)).map String.ofList

/-- The least length of the words whose occurrences count. -/
def leastWordLength : Nat := 4

/-- What a file scores for being named. -/
def targetBonus : Nat := 100

/-- What a file scores for each occurrence of a word. -/
def occurrenceWeight : Nat := 2

/-- What a test scores when a fault is sought. -/
def faultTestBonus : Nat := 20

/-- What a template scores when something is made. -/
def newTemplateBonus : Nat := 15

/-- The complexity above which a script scores. -/
def complexityThreshold : Int := 10

/-- What a script scores for its complexity. -/
def complexityBonus : Nat := 10

/-- What a script scores for each import that leads to it. -/
def dependentWeight : Nat := 3

/-- What a file scores for having been touched lately. -/
def recentBonus : Nat := 25

/-- What a function or class scores for being named. -/
def mentionBonus : Int := 50

/-- `bonus` if `condition` holds, and nought otherwise. -/
def bonusIf (condition : Bool) (bonus : Nat) : Nat :=
  if condition then bonus else 0

/-- What the occurrences of the longer words of `words` in a text score. -/
def occurrenceScore (words : List String) (content : String) : Nat :=
  let lowered := Text.lower content.toList
  ((words.filter fun word => leastWordLength ≤ word.length).map fun word =>
    Text.countOf word.toList lowered * occurrenceWeight).foldr (· + ·) 0

/-- The score of a file. -/
def fileScore (graph : ImportGraph) (recent : List String) (words : List String) (intent : Intent)
    (path content : String) : Nat :=
  bonusIf (intent.targets.contains path) targetBonus +
  occurrenceScore words content +
  bonusIf (intent.kind == .debugging && Text.contains path "test") faultTestBonus +
  bonusIf (intent.kind == .creation && Text.contains path "template") newTemplateBonus +
  bonusIf (complexityThreshold < graph.complexityOf path) complexityBonus +
  (graph.dependents path).length * dependentWeight +
  bonusIf (recent.contains path) recentBonus

/-- What the keys of functions begin with. -/
def functionPrefix : String := "function:"

/-- What the keys of classes begin with. -/
def classPrefix : String := "class:"

/-- The score of what is called `name` in the file `path`, given the scores so far. -/
def memberScore (scores : Ledger Int) (words : List String) (path name : String) : Int :=
  (scores.get? path).getD 0 +
    if words.contains (String.ofList (Text.lower name.toList)) then mentionBonus else 0

/-- The scores of files, functions and classes, in this order. -/
def scores (index : Index) (graph : ImportGraph) (recent : List String) (query : String)
    (intent : Intent) : Ledger Int :=
  let words := queryWords query
  let ofFiles : Ledger Int := index.files.mapValues fun path content =>
    (fileScore graph recent words intent path content : Int)
  let withFunctions := index.functions.entries.foldl (fun scores (key, record) =>
    scores.put (functionPrefix ++ key) (memberScore scores words record.path record.name)) ofFiles
  index.classes.entries.foldl (fun scores (key, record) =>
    scores.put (classPrefix ++ key)
      (memberScore scores words record.path record.name)) withFunctions

end CodeBrief.Relevance
