/-
**What a touch of a file does to the scores.**

Whether its path is recent counts for a file, and through it for its functions and classes; nothing
else that is scored looks at the recent files (`scoreOf_recent`). One more touch brings in one path
and may throw out another, so that it moves the scores of the members of these two files only.

* `Selection.Item.path` — the path of the file that an item belongs to.
* `get?_scores` — an item has its score, if the paths are plain.
* `touch_movesScores` — what a touch does to every score, whatever the memory has been used for.
-/

import CodeBrief.Proofs.Relevance.Entries
import CodeBrief.Proofs.Session.RecentFiles

namespace CodeBrief

/-- The path of the file that an item is or belongs to. -/
def Selection.Item.path : Selection.Item → String
  | .file path _ => path
  | .function record => record.path
  | .class record => record.path
  | .unknown => ""

namespace Relevance

open Selection (Item)

/-! ### What recent files score -/

theorem fileScore_recent (graph : ImportGraph) (recent words : List String) (intent : Intent)
    (path content : String) :
    fileScore graph recent words intent path content =
      fileScore graph [] words intent path content + bonusIf (recent.contains path) recentBonus := by
  simp [fileScore, bonusIf]

section Scores

variable {files : Ledger String} (graph : ImportGraph) (recent : List String) (query : String)
  (words : List String) (intent : Intent)

theorem memberScore_recent {path : String} (isFile : path ∈ files.names) (name : String) :
    memberScore (ofFiles (Index.build files) graph recent words intent) words path name =
      memberScore (ofFiles (Index.build files) graph [] words intent) words path name +
        bonusIf (recent.contains path) recentBonus := by
  obtain ⟨content, held⟩ := Option.isSome_iff_exists.mp (Ledger.isSome_get?_iff.mpr isFile)
  have scored : ∀ recent : List String,
      (ofFiles (Index.build files) graph recent words intent).get? path =
        some (fileScore graph recent words intent path content : Int) := by
    intro recent
    unfold ofFiles
    rw [Ledger.get?_mapValues]
    exact congrArg (Option.map _) held
  unfold memberScore
  rw [scored, scored, Option.getD_some, Option.getD_some, fileScore_recent graph recent]
  omega

/-- **Whether its file is recent** is all that the recent files do to the score of an item. -/
theorem scoreOf_recent {item : Item} (member : item ∈ (Index.build files).items) :
    scoreOf (Index.build files) graph recent words intent item =
      scoreOf (Index.build files) graph [] words intent item +
        bonusIf (recent.contains item.path) recentBonus := by
  have held := (Index.keyed_build files).mem_items_iff.mp member
  cases item with
  | file path content => exact congrArg Nat.cast (fileScore_recent graph recent words intent _ _)
  | function record =>
    have isFile := path_mem_names_of_function (Ledger.get?_eq_some_iff.mp held)
    exact memberScore_recent graph recent words intent isFile record.name
  | «class» record =>
    have isFile := path_mem_names_of_class (Ledger.get?_eq_some_iff.mp held)
    exact memberScore_recent graph recent words intent isFile record.name
  | unknown => exact held.elim

variable (plain : ∀ path ∈ files.names, IsPlain path)
include plain

theorem names_scores :
    (scores (Index.build files) graph recent query intent).names =
      (Index.build files).items.map Item.key := by
  rw [Ledger.names, entries_scores _ _ _ _ plain, List.map_map]
  rfl

theorem get?_scores {item : Item} (member : item ∈ (Index.build files).items) :
    (scores (Index.build files) graph recent query intent).get? item.key =
      some (scoreOf (Index.build files) graph recent (queryWords query) intent item) := by
  rw [Ledger.get?_eq_some_iff, entries_scores _ _ _ _ plain]
  exact List.mem_map_of_mem member

/-- Lists with the same recent files give the same scores. -/
theorem scores_congr_recent {recent recent' : List String}
    (same : ∀ path, path ∈ recent ↔ path ∈ recent') :
    scores (Index.build files) graph recent query intent =
      scores (Index.build files) graph recent' query intent := by
  apply Ledger.ext_entries
  rw [entries_scores _ _ _ _ plain, entries_scores _ _ _ _ plain]
  refine List.map_congr_left fun item member => ?_
  have known : recent.contains item.path = recent'.contains item.path := by
    rw [Bool.eq_iff_iff, List.contains_iff_mem, List.contains_iff_mem]
    exact same item.path
  rw [scoreOf_recent graph recent _ _ member, scoreOf_recent graph recent' _ _ member, known]

end Scores

/-! ### One more touch -/

theorem bonusIf_contains (recent : List String) (path : String) :
    (bonusIf (recent.contains path) recentBonus : Int) = if path ∈ recent then 25 else 0 := by
  unfold bonusIf recentBonus
  by_cases known : path ∈ recent <;> simp [known]

/-- What a touch of a new file does to the bonus of a path. -/
theorem bonusIf_touch {memory : Memory} {path : String} (distinct : memory.recentFiles.Nodup)
    (bounded : memory.recentFiles.length ≤ memory.limits.recentFiles)
    (room : 1 ≤ memory.limits.recentFiles) (new : path ∉ memory.recentFiles) (other : String) :
    (bonusIf ((memory.touch path).recentFiles.contains other) recentBonus : Int) =
      bonusIf (memory.recentFiles.contains other) recentBonus + (if other = path then 25 else 0) -
        (if memory.evicted? = some other then 25 else 0) := by
  have touched : other ∈ (memory.touch path).recentFiles ↔ _ :=
    Memory.mem_recentFiles_touch_of_not_mem distinct bounded room new
  rw [bonusIf_contains, bonusIf_contains]
  by_cases thrown : memory.evicted? = some other
  · -- What is thrown out was recent, so that it is not the new file.
    have recent := Memory.mem_of_evicted? thrown
    have apart : other ≠ path := fun same => new (same ▸ recent)
    have absent : other ∉ (memory.touch path).recentFiles := by
      rw [touched]
      simp [apart, thrown]
    simp [thrown, recent, apart, absent]
  · by_cases own : other = path
    · have present : other ∈ (memory.touch path).recentFiles := touched.mpr (Or.inl own)
      have notRecent : other ∉ memory.recentFiles := own ▸ new
      rw [if_pos present, if_neg notRecent, if_pos own, if_neg thrown]
      rfl
    · have known : other ∈ (memory.touch path).recentFiles ↔ other ∈ memory.recentFiles := by
        rw [touched]
        simp [own, thrown]
      simp [known, own, thrown]

/-- What a touch of `path` does to the scores of an index: from `before` to `after`. -/
structure MovesScores (index : Index) (memory : Memory) (path : String)
    (before after : Ledger Int) : Prop where
  /-- The same things are scored: the items of the index. -/
  keys : before.names = index.items.map Item.key ∧ after.names = before.names
  /-- No score changes if the file is recent already. -/
  again : path ∈ memory.recentFiles → after = before
  /-- Else 25 go to the members of the file, and from those of the file that is thrown out. -/
  fresh : path ∉ memory.recentFiles → ∀ item ∈ index.items, ∃ score,
    before.get? item.key = some score ∧
      after.get? item.key = some (score + (if item.path = path then 25 else 0) -
        (if memory.evicted? = some item.path then 25 else 0))

/-- **A touch moves the scores of one or two files.** Let a memory with room for a recent file have
been used in any way. Then a touch of a file that is recent leaves all scores as they are, and a
touch of any other file moves those of this file and of the one that it throws out. -/
theorem touch_movesScores {files : Ledger String} (plain : ∀ path ∈ files.names, IsPlain path)
    {limits : MemoryLimits} (room : 1 ≤ limits.recentFiles) (calls : List Memory.Call)
    (path : String) (graph : ImportGraph) (query : String) (intent : Intent) :
    MovesScores (Index.build files) ((Memory.withLimits limits).run calls) path
      (scores (Index.build files) graph ((Memory.withLimits limits).run calls).recentFiles query
        intent)
      (scores (Index.build files) graph
        (((Memory.withLimits limits).run calls).touch path).recentFiles query intent) := by
  have distinct := Memory.nodup_recentFiles_run limits calls
  have bounded := Memory.length_recentFiles_run_le limits calls
  rw [← Memory.limits_run limits calls] at room
  -- Nothing else about the history counts.
  generalize (Memory.withLimits limits).run calls = memory at distinct bounded room ⊢
  refine ⟨⟨names_scores _ _ _ _ plain, ?_⟩, fun recent => ?_, fun new item member => ?_⟩
  · rw [names_scores _ _ _ _ plain, names_scores _ _ _ _ plain]
  · exact scores_congr_recent _ _ _ plain fun other =>
      Memory.mem_recentFiles_touch_of_mem distinct bounded recent
  · refine ⟨_, get?_scores graph _ query intent plain member, ?_⟩
    have before := scoreOf_recent graph memory.recentFiles (queryWords query) intent member
    have after := scoreOf_recent graph (memory.touch path).recentFiles (queryWords query) intent
      member
    rw [bonusIf_touch distinct bounded room new] at after
    rw [get?_scores graph _ query intent plain member, after, before]
    congr 1
    omega

/-- A full list of recent files: a new file throws out the one that was touched first. -/
theorem touch_movesScores_fullList :
    let files : Ledger String :=
      .ofList [("a.js", "function f() \x7b\x7d"), ("b.js", "class K \x7b\x7d")]
    let memory := (Memory.withLimits { recentFiles := 2 }).run [.touch "b.js", .touch "c.js"]
    let before := scores (Index.build files) (.build files) memory.recentFiles "find f" {}
    let after := scores (Index.build files) (.build files) (memory.touch "a.js").recentFiles
      "find f" {}
    memory.evicted? = some "b.js" ∧
      before.get? "function:a.js:f" = some 50 ∧ after.get? "function:a.js:f" = some 75 ∧
      before.get? "class:b.js:K" = some 25 ∧ after.get? "class:b.js:K" = some 0 := by
  intro files memory before after
  have plain : ∀ path ∈ files.names, IsPlain path := by decide +kernel
  have thrown : memory.evicted? = some "b.js" := by decide +kernel
  have new : "a.js" ∉ memory.recentFiles := by decide +kernel
  have moves : MovesScores (Index.build files) memory "a.js" before after :=
    touch_movesScores plain (by decide) [.touch "b.js", .touch "c.js"] "a.js" (.build files)
      "find f" {}
  have ofFunction : before.get? "function:a.js:f" = some 50 := by decide +kernel
  have ofClass : before.get? "class:b.js:K" = some 25 := by decide +kernel
  obtain ⟨function, inItems, key, path⟩ : ∃ item ∈ (Index.build files).items,
      item.key = "function:a.js:f" ∧ item.path = "a.js" := by decide +kernel
  obtain ⟨score, found, moved⟩ := moves.fresh new function inItems
  obtain ⟨«class», inItems', key', path'⟩ : ∃ item ∈ (Index.build files).items,
      item.key = "class:b.js:K" ∧ item.path = "b.js" := by decide +kernel
  obtain ⟨score', found', moved'⟩ := moves.fresh new «class» inItems'
  rw [key, ofFunction, Option.some.injEq] at found
  rw [key', ofClass, Option.some.injEq] at found'
  rw [key, path, thrown, ← found] at moved
  rw [key', path', thrown, ← found'] at moved'
  exact ⟨thrown, ofFunction, moved, ofClass, moved'⟩

end Relevance

end CodeBrief
