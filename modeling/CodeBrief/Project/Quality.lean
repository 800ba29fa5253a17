/-
**Code quality.**

Figures about the indexed code, the places that look bad, and the risky constructs.

* `Quality.measure` — the figures and the smells: long and complex functions, then import cycles.
* `scanSecurity` — the risky constructs of the scripts among some files.
-/

import CodeBrief.ImportGraph
import CodeBrief.Index
import CodeBrief.Json.Value
import CodeBrief.Script.Hazard

namespace CodeBrief

/-- A place that looks bad. -/
structure CodeSmell where
  /-- What is bad about it. -/
  kind : String
  /-- Where it is. -/
  location : String
  /-- How bad it is. -/
  severity : Severity
  /-- The complexity, if that is what is bad. -/
  complexity : Option Int := none
  deriving DecidableEq, Repr

/-- A whole number as JSON, or null in its absence. -/
def Json.ValueOf.ofInt? : Option Int → Json.Value
  | none => .null
  | some n => .int n

/-- A smell as a JSON object. -/
def CodeSmell.toJson (smell : CodeSmell) : Json.Value :=
  .object [("type", .string smell.kind), ("location", .string smell.location),
    ("severity", .string smell.severity.name), ("complexity", .ofInt? smell.complexity)]

/-- Figures about some code. -/
structure Quality where
  /-- The number of files. -/
  totalFiles : Int := 0
  /-- The number of functions. -/
  totalFunctions : Int := 0
  /-- The number of classes. -/
  totalClasses : Int := 0
  /-- The mean complexity of the functions. -/
  averageComplexity : Binary64 := .signedZero false
  /-- The places that look bad. -/
  smells : List CodeSmell := []
  /-- The number of test files for a hundred functions. -/
  coverage : Binary64 := .signedZero false
  deriving DecidableEq, Repr, Inhabited

namespace Quality

/-- The figures as a JSON object. -/
def toJson (quality : Quality) : Json.Value :=
  .object [("total_files", .int quality.totalFiles),
    ("total_functions", .int quality.totalFunctions),
    ("total_classes", .int quality.totalClasses),
    ("avg_complexity", .float quality.averageComplexity),
    ("code_smells", .array (quality.smells.map CodeSmell.toJson)),
    ("coverage", .float quality.coverage)]

/-- The number of characters above which a body is long. -/
def longBody : Nat := 500

/-- The complexity above which a function is complex. -/
def highComplexity : Int := 10

/-- The quotient of two whole numbers, of which the second is positive. -/
def ratio (num : Int) (den : Nat) : Binary64 :=
  Binary64.roundFraction (decide (num < 0)) num.natAbs den

/-- The smells of a function under a key. -/
def functionSmells (key : String) (record : FunctionRecord) : List CodeSmell :=
  (if longBody < record.body.length then [⟨"Long Function", key, .medium, none⟩] else []) ++
  (if highComplexity < record.complexity then
    [⟨"High Complexity", key, .high, some record.complexity⟩] else [])

/-- The smell of an import cycle. -/
def cycleSmell (group : List String) : CodeSmell :=
  ⟨"Circular Dependency", " -> ".intercalate group, .medium, none⟩

/-- The figures about the indexed code and its imports. -/
def measure (index : Index) (graph : ImportGraph) : Quality where
  totalFiles := index.files.size
  totalFunctions := index.functions.size
  totalClasses := index.classes.size
  averageComplexity :=
    if index.functions.size = 0 then .signedZero false
    else
      let complexities := index.functions.values.map FunctionRecord.complexity
      ratio (complexities.foldr (· + ·) 0) index.functions.size
  smells := (index.functions.entries.flatMap fun (key, record) => functionSmells key record) ++
    graph.cycles.map cycleSmell
  coverage :=
    if index.functions.size = 0 then .signedZero false
    else (ratio index.tests.size index.functions.size).mul (.ofNat 100)

end Quality

/-- The risky constructs of the scripts among some files, file after file. -/
def scanSecurity (files : Ledger String) : List Script.SecurityFinding :=
  (files.entries.filter fun (path, _) => Path.isScript path).flatMap fun (path, content) =>
    Script.hazardsIn path content.toList

end CodeBrief
