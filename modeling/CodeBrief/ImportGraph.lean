/-
**The import graph.**

The scripts of a set of files and who imports whom. An import leads to a script exactly if its
target is the path of the script, letter for letter; paths are not resolved.

* `ImportGraph.build` — the scripts with their imports, exports and complexity.
* `ImportGraph.edges`, `ImportGraph.dependents` — two views of the imports that lead to scripts:
  distinct pairs, and for each script the importers, once for each import.
* `ImportGraph.cycles` — the groups of scripts that import each other in a circle.
-/

import CodeBrief.Ledger
import CodeBrief.Order
import CodeBrief.Path
import CodeBrief.Script.Complexity
import CodeBrief.Script.Dependency

namespace CodeBrief

/-- What is known about a script on its own. -/
structure ScriptFacts where
  /-- The targets it imports. -/
  imports : List String := []
  /-- The names it exports. -/
  exports : List String := []
  /-- The complexity of its text. -/
  complexity : Int := 1
  deriving DecidableEq, Repr

/-- What is known about a script with this text. -/
def ScriptFacts.ofText (content : String) : ScriptFacts where
  imports := Script.imports content.toList
  exports := Script.exports content.toList
  complexity := Script.complexity content

/-- Scripts under their paths. -/
structure ImportGraph where
  /-- The scripts. -/
  scripts : Ledger ScriptFacts := ∅
  deriving Inhabited

namespace ImportGraph

/-- The graph of the scripts among some files. -/
def build (files : Ledger String) : ImportGraph where
  scripts := (files.filter fun path _ => Path.isScript path).mapValues
    fun _ content => .ofText content

/-- The paths of the scripts. -/
def paths (graph : ImportGraph) : List String :=
  graph.scripts.names

/-- The complexity of a script, and nought for any other path. -/
def complexityOf (graph : ImportGraph) (path : String) : Int :=
  match graph.scripts.get? path with
  | some facts => facts.complexity
  | none => 0

/-- The importers of a script, in the order of the scripts, each as often as it imports the
script. -/
def dependents (graph : ImportGraph) (path : String) : List String :=
  if graph.scripts.has path then
    graph.scripts.entries.flatMap fun (importer, facts) =>
      (facts.imports.filter (· == path)).map fun _ => importer
  else []

/-- The scripts that a script imports, each once. -/
def targets (graph : ImportGraph) (facts : ScriptFacts) : List String :=
  (facts.imports.filter graph.scripts.has).eraseDups

/-- The pairs of an importer and a script that it imports, in the order of the importers. -/
def edges (graph : ImportGraph) : List (String × String) :=
  graph.scripts.entries.flatMap fun (importer, facts) =>
    (graph.targets facts).map fun target => (importer, target)

/-! ### Cycles -/

/-- The ends of the edges that begin in `starts`. -/
def successors (edges : List (String × String)) (starts : List String) : List String :=
  (edges.filter fun edge => starts.contains edge.1).map Prod.snd

/-- The places `reached` with all that can be reached in at most `rounds` rounds from `frontier`,
their part whose edges have not been followed yet. -/
def reachWithin (edges : List (String × String)) :
    (rounds : Nat) → (frontier reached : List String) → List String
  | 0, _, reached => reached
  | rounds + 1, frontier, reached =>
    match ((successors edges frontier).filter fun place => !reached.contains place).eraseDups with
    | [] => reached
    | found => reachWithin edges rounds found (reached ++ found)

/-- The scripts that can be reached from each script along imports, itself included. -/
def reachable (graph : ImportGraph) : Ledger (List String) :=
  let edges := graph.edges
  graph.scripts.mapValues fun path _ => reachWithin edges graph.scripts.size [path] [path]

/-- The scripts that reach `path` and are reached from it, sorted, where `reach` tells what each
script reaches. -/
def group (reach : Ledger (List String)) (path : String) : List String :=
  sortBy textLe <| ((reach.get? path).getD []).filter fun other =>
    ((reach.get? other).getD []).contains path

/-- The groups of at least two scripts that import each other in a circle, sorted. -/
def cycles (graph : ImportGraph) : List (List String) :=
  let reach := graph.reachable
  let groups := (graph.paths.map (group reach)).filter fun group => 1 < group.length
  sortBy (lexLe textLe) groups.eraseDups

/-! ### Figures -/

/-- The number of imports of all scripts, whether they lead to a script or not. -/
def importCount (graph : ImportGraph) : Nat :=
  (graph.scripts.values.flatMap fun facts => facts.imports).length

end ImportGraph

end CodeBrief
