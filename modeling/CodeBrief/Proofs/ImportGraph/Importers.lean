/-
**Imports and importers.**

A script may import another one several times, import itself, or name targets that are no scripts.
The graph shows the imports that lead to a script in two more ways: as the importers of each script,
and as edges. All of them are read off one list, the imports of all scripts in order.

* `importsOf`, `occurrences`, `resolved` — the imports of a script, of all scripts, and those that
  lead to a script.
* `dependents_eq` — the importers of a script, script after script, each as often as it imports it.
* `edges_eq` — the edges are the imports that lead to scripts, each pair once.
* `Links.note`, `noteAll_eq` — noting one import after another, an importer with its target and an
  edge unless there is one, comes to the same importers and edges.
* `build_dualViews` — how the three views agree.
-/

import CodeBrief.ImportGraph
import CodeBrief.Proofs.FirstOccurrences
import CodeBrief.Proofs.Ledger
import Mathlib.Algebra.Order.BigOperators.Group.List
import Mathlib.Algebra.Order.Group.Nat
import Mathlib.Algebra.Ring.Nat
import Mathlib.Data.Finset.Card

namespace CodeBrief

/-! ### Counting in lists -/

/-- Blocks of equal elements, one block for each of some distinct elements. -/
theorem count_flatMap_replicate {xs : List String} (distinct : xs.Nodup) (times : String → Nat)
    {x : String} (member : x ∈ xs) :
    (xs.flatMap fun y => List.replicate (times y) y).count x = times x := by
  induction xs with
  | nil => exact absurd member List.not_mem_nil
  | cons y rest ih =>
    obtain ⟨fresh, distinctRest⟩ := List.nodup_cons.mp distinct
    rw [List.flatMap_cons, List.count_append, List.count_replicate]
    rcases List.mem_cons.mp member with rfl | later
    · have none : x ∉ rest.flatMap fun y => List.replicate (times y) y := by
        intro inside
        obtain ⟨y, inRest, block⟩ := List.mem_flatMap.mp inside
        exact fresh (List.eq_of_mem_replicate block ▸ inRest)
      rw [List.count_eq_zero.mpr none, beq_self_eq_true, if_pos rfl, Nat.add_zero]
    · have other : y ≠ x := fun same => fresh (same ▸ later)
      rw [beq_false_of_ne other, ih distinctRest later, if_neg Bool.false_ne_true, Nat.zero_add]

/-- A place is counted once among distinct places. -/
theorem sum_indicator {places : List String} (distinct : places.Nodup) (x : String) :
    (places.map fun place => if (x == place) = true then 1 else 0).sum =
      if x ∈ places then 1 else 0 := by
  rw [← distinct.count]
  clear distinct
  induction places with
  | nil => rfl
  | cons place rest ih =>
    rw [List.map_cons, List.sum_cons, ih, List.count_cons, Nat.add_comm, BEq.comm]

/-- The pairs that end in one of some distinct places, counted place by place. -/
theorem sum_countP_snd {places : List String} (distinct : places.Nodup)
    (pairs : List (String × String)) :
    (places.map fun place => pairs.countP fun pair => pair.2 == place).sum =
      pairs.countP fun pair => pair.2 ∈ places := by
  induction pairs with
  | nil => simp
  | cons pair rest ih =>
    simp only [List.countP_cons, List.sum_map_add, ih, sum_indicator distinct, decide_eq_true_eq]

/-- Lists of pairs that begin differently, each without its repetitions. -/
theorem eraseDups_flatMap_mk {xs : List String} (distinct : xs.Nodup)
    (ends : String → List String) :
    (xs.flatMap fun x => (ends x).map (Prod.mk x)).eraseDups =
      xs.flatMap fun x => (ends x).eraseDups.map (Prod.mk x) := by
  induction xs with
  | nil => rfl
  | cons x rest ih =>
    obtain ⟨fresh, distinctRest⟩ := List.nodup_cons.mp distinct
    have disjoint : ((ends x).map (Prod.mk x)).Disjoint
        (rest.flatMap fun y => (ends y).map (Prod.mk y)) := by
      intro pair here there
      obtain ⟨_, -, rfl⟩ := List.mem_map.mp here
      obtain ⟨y, inRest, inside⟩ := List.mem_flatMap.mp there
      obtain ⟨_, -, same⟩ := List.mem_map.mp inside
      cases same
      exact fresh inRest
    rw [List.flatMap_cons, List.flatMap_cons, eraseDups_append_of_disjoint disjoint,
      eraseDups_map (Prod.mk_right_injective x), ih distinctRest]

namespace ImportGraph

/-! ### The imports of all scripts -/

section Occurrences

variable (graph : ImportGraph)

/-- The targets that a script imports, in order; none for any other path. -/
def importsOf (path : String) : List String :=
  match graph.scripts.get? path with
  | some facts => facts.imports
  | none => []

/-- The imports of all scripts, script after script: the importer and the target. -/
def occurrences : List (String × String) :=
  graph.paths.flatMap fun importer => (graph.importsOf importer).map (Prod.mk importer)

/-- The imports that lead to a script. -/
def resolved : List (String × String) :=
  graph.occurrences.filter fun pair => graph.scripts.has pair.2

theorem nodup_paths : graph.paths.Nodup :=
  graph.scripts.distinct

theorem importsOf_of_mem {entry : String × ScriptFacts} (member : entry ∈ graph.scripts.entries) :
    graph.importsOf entry.1 = entry.2.imports := by
  unfold importsOf
  rw [Ledger.get?_eq_some_iff.mpr member]

/-- What is made of each script and its imports. -/
theorem flatMap_entries {α : Type} (make : String → List String → List α) :
    (graph.scripts.entries.flatMap fun entry => make entry.1 entry.2.imports) =
      graph.paths.flatMap fun path => make path (graph.importsOf path) := by
  unfold paths Ledger.names
  rw [List.flatMap_map]
  refine List.flatMap_congr fun entry member => ?_
  rw [importsOf_of_mem graph member]

theorem mem_paths_of_mem_importsOf {importer target : String}
    (member : target ∈ graph.importsOf importer) : importer ∈ graph.paths := by
  unfold importsOf at member
  split at member
  · rename_i facts found
    exact Ledger.isSome_get?_iff.mp (by rw [found]; rfl)
  · exact absurd member List.not_mem_nil

theorem mem_occurrences {importer target : String} :
    (importer, target) ∈ graph.occurrences ↔ target ∈ graph.importsOf importer := by
  unfold occurrences
  rw [List.mem_flatMap]
  constructor
  · rintro ⟨other, -, inside⟩
    obtain ⟨found, member, same⟩ := List.mem_map.mp inside
    cases same
    exact member
  · intro member
    exact ⟨importer, graph.mem_paths_of_mem_importsOf member, List.mem_map_of_mem member⟩

/-- The number of imports is the number of occurrences. -/
theorem importCount_eq : graph.importCount = graph.occurrences.length := by
  unfold importCount occurrences
  rw [List.length_flatMap, List.length_flatMap]
  simp only [List.length_map]
  unfold paths Ledger.names Ledger.values
  rw [List.map_map, List.map_map]
  congr 1
  refine List.map_congr_left fun entry member => ?_
  simp only [Function.comp_apply, importsOf_of_mem graph member]

end Occurrences

/-! ### Importers -/

section Importers

variable {graph : ImportGraph} {target : String}

theorem dependents_of_mem (script : target ∈ graph.paths) :
    graph.dependents target = graph.paths.flatMap fun importer =>
      ((graph.importsOf importer).filter (· == target)).map fun _ => importer := by
  unfold dependents
  rw [if_pos (Ledger.has_iff.mpr script)]
  exact graph.flatMap_entries fun importer imports =>
    (imports.filter (· == target)).map fun _ => importer

/-- **The importers of a script**, script after script, each as often as it imports it. -/
theorem dependents_eq (script : target ∈ graph.paths) :
    graph.dependents target = graph.paths.flatMap fun importer =>
      List.replicate ((graph.importsOf importer).count target) importer := by
  rw [dependents_of_mem script]
  refine List.flatMap_congr fun importer _ => ?_
  rw [List.filter_beq, List.map_replicate]

/-- The importers among some imports: those whose target is `target`. -/
def importersAmong (imports : List (String × String)) (target : String) : List String :=
  (imports.filter fun pair => pair.2 == target).map Prod.fst

theorem dependents_eq_importersAmong (script : target ∈ graph.paths) :
    graph.dependents target = importersAmong graph.occurrences target := by
  rw [dependents_of_mem script]
  unfold importersAmong occurrences
  rw [List.filter_flatMap, List.map_flatMap]
  refine List.flatMap_congr fun importer _ => ?_
  rw [List.filter_map, List.map_map]
  rfl

/-- **Importers count imports.** -/
theorem count_dependents {importer : String} (script : target ∈ graph.paths)
    (importing : importer ∈ graph.paths) :
    (graph.dependents target).count importer = (graph.importsOf importer).count target := by
  rw [dependents_eq script, count_flatMap_replicate graph.nodup_paths _ importing]

/-- All importers together are as many as the imports that lead to a script. -/
theorem sum_length_dependents :
    (graph.paths.map fun path => (graph.dependents path).length).sum = graph.resolved.length := by
  have lengths : (graph.paths.map fun path => (graph.dependents path).length) =
      graph.paths.map fun path => graph.occurrences.countP fun pair => pair.2 == path := by
    refine List.map_congr_left fun path script => ?_
    rw [dependents_eq_importersAmong script]
    unfold importersAmong
    rw [List.length_map, List.countP_eq_length_filter]
  unfold resolved
  rw [lengths, sum_countP_snd graph.nodup_paths, List.countP_eq_length_filter]
  congr 1
  refine List.filter_congr fun pair _ => ?_
  rw [Bool.eq_iff_iff, decide_eq_true_eq, Ledger.has_iff]
  rfl

end Importers

/-! ### Edges -/

section Edges

variable (graph : ImportGraph)

/-- **The edges are the imports that lead to scripts, each pair once.** -/
theorem edges_eq : graph.edges = graph.resolved.eraseDups := by
  have split : graph.resolved = graph.paths.flatMap fun importer =>
      ((graph.importsOf importer).filter graph.scripts.has).map (Prod.mk importer) := by
    unfold resolved occurrences
    rw [List.filter_flatMap]
    refine List.flatMap_congr fun importer _ => ?_
    rw [List.filter_map]
    rfl
  rw [split, eraseDups_flatMap_mk graph.nodup_paths]
  exact graph.flatMap_entries fun importer imports =>
    (imports.filter graph.scripts.has).eraseDups.map fun target => (importer, target)

theorem mem_edges {importer target : String} :
    (importer, target) ∈ graph.edges ↔
      target ∈ graph.importsOf importer ∧ target ∈ graph.paths := by
  rw [edges_eq, List.mem_eraseDups]
  unfold resolved
  rw [List.mem_filter, mem_occurrences, Ledger.has_iff]
  rfl

/-- Both ends of an edge are scripts. -/
theorem mem_paths_of_mem_edges {edge : String × String} (member : edge ∈ graph.edges) :
    edge.1 ∈ graph.paths ∧ edge.2 ∈ graph.paths := by
  obtain ⟨imported, script⟩ := graph.mem_edges.mp member
  exact ⟨graph.mem_paths_of_mem_importsOf imported, script⟩

theorem length_edges : graph.edges.length = graph.resolved.toFinset.card := by
  have distinct : graph.edges.Nodup := by
    rw [edges_eq]
    exact nodup_eraseDups _
  rw [← List.toFinset_card_of_nodup distinct]
  congr 1
  ext pair
  rw [List.mem_toFinset, List.mem_toFinset, edges_eq, List.mem_eraseDups]

theorem length_edges_le : graph.edges.length ≤ graph.importCount := by
  rw [edges_eq, importCount_eq]
  exact (length_eraseDups_le _).trans (List.length_filter_le _ _)

end Edges

/-! ### Noting one import after another -/

/-- What has been noted of the links between scripts. -/
structure Links where
  /-- The importers of each script so far. -/
  importers : Ledger (List String)
  /-- The edges so far. -/
  edges : List (String × String)

/-- Notes an import if its target is a script: the importer with the script, and an edge unless
there is one. -/
def Links.note (links : Links) (pair : String × String) : Links :=
  match links.importers.get? pair.2 with
  | none => links
  | some sofar =>
    { importers := links.importers.put pair.2 (sofar ++ [pair.1])
      edges := if pair ∈ links.edges then links.edges else links.edges ++ [pair] }

section Noting

variable (graph : ImportGraph)

/-- The links before any import has been noted: no script has importers. -/
def noLinks : Links where
  importers := graph.scripts.mapValues fun _ _ => []
  edges := []

/-- The links after the imports of all scripts have been noted. -/
def noteAll : Links :=
  graph.occurrences.foldl Links.note graph.noLinks

/-- What some imports come to. -/
def linksOf (imports : List (String × String)) : Links where
  importers := graph.scripts.mapValues fun path _ => importersAmong imports path
  edges := (imports.filter fun pair => graph.scripts.has pair.2).eraseDups

theorem importersAmong_concat (imports : List (String × String)) (pair : String × String)
    (path : String) :
    importersAmong (imports ++ [pair]) path =
      if path = pair.2 then importersAmong imports pair.2 ++ [pair.1]
      else importersAmong imports path := by
  unfold importersAmong
  rw [List.filter_append, List.map_append]
  split
  · rename_i same
    simp [same]
  · rename_i other
    simp [Ne.symm other]

/-- **Noting one more import.** -/
theorem note_linksOf (imports : List (String × String)) (pair : String × String) :
    (graph.linksOf imports).note pair = graph.linksOf (imports ++ [pair]) := by
  have found : (graph.linksOf imports).importers.get? pair.2 =
      (graph.scripts.get? pair.2).map fun _ => importersAmong imports pair.2 :=
    Ledger.get?_mapValues _ graph.scripts pair.2
  unfold Links.note
  rw [found]
  cases script : graph.scripts.get? pair.2 with
  | none =>
    -- The target is no script, so that neither importers nor edges change.
    have absent : pair.2 ∉ graph.scripts.names := Ledger.get?_eq_none_iff.mp script
    have unlisted : ¬ graph.scripts.has pair.2 = true := fun has => absent (Ledger.has_iff.mp has)
    have importers : (graph.scripts.mapValues fun path _ => importersAmong imports path) =
        graph.scripts.mapValues fun path _ => importersAmong (imports ++ [pair]) path := by
      refine Ledger.mapValues_congr fun path member => ?_
      have other : path ≠ pair.2 := fun same => absent (same ▸ member)
      rw [importersAmong_concat, if_neg other]
    have passed : (imports ++ [pair]).filter (fun other => graph.scripts.has other.2) =
        imports.filter fun other => graph.scripts.has other.2 := by
      simp [unlisted]
    unfold linksOf
    rw [Option.map_none, importers, passed]
  | some facts =>
    have present : pair.2 ∈ graph.scripts.names :=
      Ledger.isSome_get?_iff.mp (by rw [script]; rfl)
    have listed : graph.scripts.has pair.2 = true := Ledger.has_iff.mpr present
    have kept : (imports ++ [pair]).filter (fun other => graph.scripts.has other.2) =
        imports.filter (fun other => graph.scripts.has other.2) ++ [pair] := by
      simp [listed]
    unfold linksOf
    rw [Option.map_some, kept, eraseDups_concat]
    simp only [importersAmong_concat, Ledger.put_mapValues present, List.mem_eraseDups]

/-- Noting some more imports. -/
theorem foldl_note_linksOf (later imports : List (String × String)) :
    later.foldl Links.note (graph.linksOf imports) = graph.linksOf (imports ++ later) := by
  induction later generalizing imports with
  | nil => rw [List.append_nil, List.foldl_nil]
  | cons pair rest ih =>
    rw [List.foldl_cons, note_linksOf, ih, List.append_assoc, List.singleton_append]

/-- **Noting all imports comes to the importers and the edges.** -/
theorem noteAll_eq :
    graph.noteAll =
      ⟨graph.scripts.mapValues fun path _ => graph.dependents path, graph.edges⟩ := by
  have run : graph.noteAll = graph.linksOf graph.occurrences :=
    graph.foldl_note_linksOf graph.occurrences []
  have importers : (graph.scripts.mapValues fun path _ => importersAmong graph.occurrences path) =
      graph.scripts.mapValues fun path _ => graph.dependents path :=
    Ledger.mapValues_congr fun path script => (dependents_eq_importersAmong script).symm
  rw [run, edges_eq]
  unfold linksOf resolved
  rw [importers]

end Noting

/-! ### The graph of some files -/

theorem paths_build (files : Ledger String) :
    (build files).paths = files.names.filter Path.isScript := by
  unfold paths build
  rw [Ledger.names_mapValues, Ledger.names_filter]

/-- What is known about a path is known from the text of the script. -/
theorem get?_scripts_build {files : Ledger String} {path : String} {facts : ScriptFacts} :
    (build files).scripts.get? path = some facts ↔
      ∃ content, files.get? path = some content ∧ Path.isScript path = true ∧
        facts = .ofText content := by
  unfold build
  rw [Ledger.get?_mapValues, Option.map_eq_some_iff]
  constructor
  · rintro ⟨content, found, rfl⟩
    obtain ⟨known, script⟩ := Ledger.get?_filter_eq_some.mp found
    exact ⟨content, known, script, rfl⟩
  · rintro ⟨content, known, script, rfl⟩
    exact ⟨content, Ledger.get?_filter_eq_some.mpr ⟨known, script⟩, rfl⟩

theorem importsOf_build {files : Ledger String} {path content : String}
    (known : files.get? path = some content) (script : Path.isScript path = true) :
    (build files).importsOf path = Script.imports content.toList := by
  unfold importsOf
  rw [get?_scripts_build.mpr ⟨content, known, script, rfl⟩]
  rfl

/-- The importers and the edges of a graph are two views of its imports. -/
structure DualViews (graph : ImportGraph) : Prop where
  /-- The importers of a script stand in the order of the scripts, each as often as it imports the
  script. -/
  grouped : ∀ target ∈ graph.paths, graph.dependents target =
    graph.paths.flatMap fun importer =>
      List.replicate ((graph.importsOf importer).count target) importer
  /-- A script occurs among the importers of another one as often as this one among its imports. -/
  counts : ∀ importer ∈ graph.paths, ∀ target ∈ graph.paths,
    (graph.dependents target).count importer = (graph.importsOf importer).count target
  /-- An edge leads from each importer of a script to the script, and there is no other edge. -/
  edges : ∀ importer target, (importer, target) ∈ graph.edges ↔
    importer ∈ graph.paths ∧ target ∈ graph.paths ∧ 0 < (graph.importsOf importer).count target
  /-- All importers together are as many as the imports that lead to a script. -/
  importers : (graph.paths.map fun path => (graph.dependents path).length).sum =
    graph.resolved.length
  /-- The edges are as many as the distinct imports that lead to a script. -/
  distinct : graph.edges.length = graph.resolved.toFinset.card
  /-- There are no more edges than imports. -/
  bounded : graph.edges.length ≤ graph.importCount
  /-- Noting one import after another comes to the same importers and edges. -/
  noted : graph.noteAll =
    ⟨graph.scripts.mapValues fun path _ => graph.dependents path, graph.edges⟩

/-- **Imports and importers of the scripts among some files.** The scripts stand in the order of the
files, their imports are those found in their texts, and the importers and the edges agree with
these imports. -/
theorem build_dualViews (files : Ledger String) :
    (build files).paths = files.names.filter Path.isScript ∧
    (∀ path content, files.get? path = some content → Path.isScript path = true →
      (build files).importsOf path = Script.imports content.toList) ∧
    (build files).DualViews := by
  refine ⟨paths_build files, fun path content => importsOf_build, ?_⟩
  constructor
  case grouped => exact fun target script => dependents_eq script
  case counts => exact fun importer importing target script => count_dependents script importing
  case edges =>
    intro importer target
    rw [mem_edges, List.count_pos_iff]
    constructor
    · rintro ⟨imported, script⟩
      exact ⟨mem_paths_of_mem_importsOf _ imported, script, imported⟩
    · rintro ⟨-, script, imported⟩
      exact ⟨imported, script⟩
  case importers => exact sum_length_dependents
  case distinct => exact length_edges _
  case bounded => exact length_edges_le _
  case noted => exact noteAll_eq _

/-- A script that imports itself, and another one twice. -/
example :
    let graph := build (.ofList [("a.js", "require('b.js') require('a.js') require('b.js')"),
      ("b.js", "require('c')")])
    graph.dependents "b.js" = ["a.js", "a.js"] ∧ graph.dependents "a.js" = ["a.js"] ∧
      graph.edges = [("a.js", "b.js"), ("a.js", "a.js")] ∧ graph.importCount = 4 := by
  decide +kernel

end ImportGraph

end CodeBrief
