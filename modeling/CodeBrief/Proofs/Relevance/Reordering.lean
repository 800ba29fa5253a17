/-
**Scores do not depend on the order of the files.**

The order in which files are listed shows in the order of the scripts of the graph, of the importers
of a script, of the functions and classes of the index and of the scores. What stands under a path
or a key does not change:

* `perm_functions_build`, `perm_classes_build` — the index holds the same records, as what stands
  under a key is told by the file of the key alone;
* `sameUpToOrder_build` — the graph knows the same scripts and importers;
* `perm_entries_scores` — so everything has the same score. Only the number of the importers counts
  for a score, and not their order (`fileScore_congr`).
* `scores_sameForAllOrders` — this for two listings of the same files.
-/

import CodeBrief.Proofs.ImportGraph.Importers
import CodeBrief.Proofs.Index.Lookup
import CodeBrief.Proofs.Relevance.Entries

namespace CodeBrief

/-! ### The index and the graph -/

section Parts

variable {files files' : Ledger String} (same : files.entries.Perm files'.entries)
include same

theorem Index.perm_functions_build :
    (build files).functions.entries.Perm (build files').functions.entries := by
  refine Ledger.perm_entries_iff.mpr fun key => ?_
  rw [functions_get?_build, functions_get?_build, Ledger.perm_entries_iff.mp same]

theorem Index.perm_classes_build :
    (build files).classes.entries.Perm (build files').classes.entries := by
  refine Ledger.perm_entries_iff.mpr fun key => ?_
  rw [classes_get?_build, classes_get?_build, Ledger.perm_entries_iff.mp same]

theorem Index.perm_items_build : (build files).items.Perm (build files').items := by
  have functions := (perm_functions_build same).map fun entry => Selection.Item.function entry.2
  have classes := (perm_classes_build same).map fun entry => Selection.Item.class entry.2
  exact ((same.map _).append functions).append classes

theorem ImportGraph.perm_scripts_build :
    (build files).scripts.entries.Perm (build files').scripts.entries :=
  (same.filter _).map _

end Parts

namespace ImportGraph

/-- Two graphs know the same scripts, of each the same imports, exports and complexity, and the same
importers, but for the order. -/
structure SameUpToOrder (left right : ImportGraph) : Prop where
  /-- The scripts. -/
  paths : left.paths.Perm right.paths
  /-- What is known about each of them. -/
  facts : ∀ path, left.scripts.get? path = right.scripts.get? path
  /-- The importers of each of them. -/
  dependents : ∀ path, (left.dependents path).Perm (right.dependents path)

theorem sameUpToOrder_of_perm {left right : ImportGraph}
    (same : left.scripts.entries.Perm right.scripts.entries) : left.SameUpToOrder right := by
  have paths : left.paths.Perm right.paths := same.map _
  refine ⟨paths, Ledger.perm_entries_iff.mp same, fun path => ?_⟩
  have known : left.scripts.has path = right.scripts.has path := by
    rw [Bool.eq_iff_iff, Ledger.has_iff, Ledger.has_iff]
    exact paths.mem_iff
  unfold dependents
  rw [known]
  by_cases script : right.scripts.has path = true
  · rw [if_pos script, if_pos script]
    exact same.flatMap_right _
  · rw [if_neg script, if_neg script]

/-- **The scripts among some files**, whatever the order of the files. -/
theorem sameUpToOrder_build {files files' : Ledger String}
    (same : files.entries.Perm files'.entries) : (build files).SameUpToOrder (build files') :=
  sameUpToOrder_of_perm (perm_scripts_build same)

theorem SameUpToOrder.complexityOf_eq {left right : ImportGraph} (same : left.SameUpToOrder right)
    (path : String) : left.complexityOf path = right.complexityOf path := by
  unfold complexityOf
  rw [same.facts]

end ImportGraph

/-! ### The scores -/

namespace Relevance

open Selection (Item)

theorem fileScore_congr {graph graph' : ImportGraph} (same : graph.SameUpToOrder graph')
    (recent words : List String) (intent : Intent) (path content : String) :
    fileScore graph recent words intent path content =
      fileScore graph' recent words intent path content := by
  unfold fileScore
  rw [same.complexityOf_eq, (same.dependents path).length_eq]

section Scores

variable {files files' : Ledger String} (same : files.entries.Perm files'.entries)
  (recent : List String) (query : String) (intent : Intent)
include same

theorem get?_ofFiles_congr (words : List String) (path : String) :
    (ofFiles (Index.build files) (.build files) recent words intent).get? path =
      (ofFiles (Index.build files') (.build files') recent words intent).get? path := by
  have scored : (fun content => (fileScore (.build files) recent words intent path content : Int)) =
      fun content => (fileScore (.build files') recent words intent path content : Int) := by
    funext content
    rw [fileScore_congr (ImportGraph.sameUpToOrder_build same)]
  have held : (Index.build files).files.get? path = (Index.build files').files.get? path :=
    Ledger.perm_entries_iff.mp same path
  unfold ofFiles
  rw [Ledger.get?_mapValues, Ledger.get?_mapValues, held, scored]

theorem scoreOf_congr (words : List String) (item : Item) :
    scoreOf (Index.build files) (.build files) recent words intent item =
      scoreOf (Index.build files') (.build files') recent words intent item := by
  cases item with
  | file path content =>
    show (fileScore _ _ _ _ _ _ : Int) = fileScore _ _ _ _ _ _
    rw [fileScore_congr (ImportGraph.sameUpToOrder_build same)]
  | function record =>
    simp only [scoreOf, memberScore, get?_ofFiles_congr same]
  | «class» record =>
    simp only [scoreOf, memberScore, get?_ofFiles_congr same]
  | unknown => rfl

/-- **Everything has the same score**, if the paths are plain. -/
theorem perm_entries_scores (plain : ∀ path ∈ files.names, IsPlain path) :
    (scores (Index.build files) (.build files) recent query intent).entries.Perm
      (scores (Index.build files') (.build files') recent query intent).entries := by
  have names : files.names.Perm files'.names := same.map Prod.fst
  have plain' : ∀ path ∈ files'.names, IsPlain path :=
    fun path member => plain path (names.mem_iff.mpr member)
  rw [entries_scores _ _ _ _ plain, entries_scores _ _ _ _ plain']
  simp only [scoreOf_congr same]
  exact (Index.perm_items_build same).map _

end Scores

/-- **Scores do not depend on the order of the files.** For two listings of the same files, none of
whose paths is taken for another key, the graphs are the same up to order, and every key has the
same score. -/
theorem scores_sameForAllOrders {files files' : Ledger String}
    (plain : ∀ path ∈ files.names, IsPlain path) (same : files.entries.Perm files'.entries)
    (recent : List String) (query : String) (intent : Intent) :
    (ImportGraph.build files).SameUpToOrder (.build files') ∧
      ∀ key, (scores (Index.build files) (.build files) recent query intent).get? key =
        (scores (Index.build files') (.build files') recent query intent).get? key :=
  ⟨ImportGraph.sameUpToOrder_build same,
    Ledger.perm_entries_iff.mp (perm_entries_scores same recent query intent plain)⟩

/-- Two scripts that import a third one, and a function and a class of it. -/
theorem scores_sameForAllOrders_threeScripts :
    let lib := ("lib.js", "function load() {}\nclass Loader {}")
    let main := ("main.js", "require('lib.js') require('lib.js')")
    let test := ("test.js", "import lib from 'lib.js'")
    let files : Ledger String := .ofList [lib, main, test]
    let files' : Ledger String := .ofList [test, main, lib]
    (ImportGraph.build files).dependents "lib.js" = ["main.js", "main.js", "test.js"] ∧
      (ImportGraph.build files').dependents "lib.js" = ["test.js", "main.js", "main.js"] ∧
      (scores (Index.build files) (.build files) ["lib.js"] "fix load" {}).get?
        "function:lib.js:load" = some 88 ∧
      (scores (Index.build files') (.build files') ["lib.js"] "fix load" {}).get?
        "function:lib.js:load" = some 88 := by
  intro lib main test files files'
  have plain : ∀ path ∈ files.names, IsPlain path := by decide +kernel
  have same : files.entries.Perm files'.entries := by decide +kernel
  have scored : (scores (Index.build files) (.build files) ["lib.js"] "fix load" {}).get?
      "function:lib.js:load" = some 88 := by decide +kernel
  have both := scores_sameForAllOrders plain same ["lib.js"] "fix load" {}
  have scored' := (both.2 "function:lib.js:load").symm.trans scored
  exact ⟨by decide +kernel, by decide +kernel, scored, scored'⟩

end Relevance

end CodeBrief
