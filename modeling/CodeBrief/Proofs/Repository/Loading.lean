/-
**When the files of a listing are loaded, and what comes of it.**

* `firstFailure?_eq_none_iff` — no failure is found just if the loader fails on none of the files.
* `fetch_eq_ok` — loading returns just then, with the texts in the order of the listing; the schedule
  has a say in the order of the progress only.
* `holdsTexts_loaded`, `loaded_filter` — the texts of the files that load, which files that do not
  load have no part in.
* `countsUp_progressFrom` — files that are dealt with in any order are counted one by one.
* `fetch_costsOnlyFailures` — a file that is missing or cannot be read costs nothing but itself.
-/

import CodeBrief.Proofs.Ledger
import CodeBrief.Repository.Fetch

namespace CodeBrief

variable {loader : Loader} {paths : List String} {entries : List Entry} {schedule : Schedule}

theorem firstFailure?_eq_none_iff :
    firstFailure? loader paths = none ↔ ∀ path ∈ paths, ∀ reason, loader path ≠ .failed reason := by
  unfold firstFailure?
  rw [List.findSome?_eq_none_iff]
  refine forall₂_congr fun path _ => ?_
  cases loader path <;> simp

/-- A file is dealt with just if it is listed. -/
theorem mem_finishOrder {room : Nat} {choices : List Nat} {path : String} :
    path ∈ finishOrder room choices paths ↔ path ∈ paths :=
  (finishOrder_perm room choices paths).mem_iff

/-- **When loading returns, and with what.** -/
theorem fetch_eq_ok {files : Ledger String} {progress : List Progress} :
    fetch schedule entries loader = .ok (files, progress) ↔
      (∀ path ∈ Entry.filePaths entries, ∀ reason, loader path ≠ .failed reason) ∧
        loaded loader (Entry.filePaths entries) = files ∧
        progressFrom (Entry.filePaths entries).length 0
          (finishOrder schedule.room schedule.choices (Entry.filePaths entries)) = progress := by
  have listed : (∀ path ∈ Entry.filePaths entries, ∀ reason, loader path ≠ .failed reason) ↔
      firstFailure? loader
        (finishOrder schedule.room schedule.choices (Entry.filePaths entries)) = none := by
    rw [firstFailure?_eq_none_iff]
    exact forall_congr' fun path => by rw [mem_finishOrder]
  rw [listed]
  unfold fetch
  dsimp only
  split
  · rename_i failure found
    simp [found]
  · rename_i none
    simp [none]

/-! ### The texts -/

/-- Whether a file is loaded. -/
def isLoaded (loader : Loader) (path : String) : Bool :=
  ((loader path).text?).isSome

/-- The texts of those of some files that load, in the order in which these are listed first. -/
structure HoldsTexts (loader : Loader) (paths : List String) (files : Ledger String) : Prop where
  /-- The files that load stand in the order in which they are listed first. -/
  names : files.names = (paths.filter (isLoaded loader)).eraseDups
  /-- Under each path stands the text that is loaded, or nothing if none is. -/
  texts : ∀ path ∈ paths, files.get? path = (loader path).text?

/-- What is entered under a path is what the loader gives for it. -/
theorem text?_of_mem_loaded {path content : String}
    (member : (path, content) ∈ (loaded loader paths).entries) :
    (loader path).text? = some content := by
  obtain ⟨other, -, found⟩ := List.mem_filterMap.mp (Ledger.mem_of_mem_ofList member)
  obtain ⟨text, loads, same⟩ := Option.map_eq_some_iff.mp found
  cases same
  exact loads

theorem names_loaded (loader : Loader) (paths : List String) :
    (loaded loader paths).names = (paths.filter (isLoaded loader)).eraseDups := by
  unfold loaded
  rw [Ledger.names_ofList]
  congr 1
  induction paths with
  | nil => rfl
  | cons path rest ih => cases loads : (loader path).text? <;> simp [isLoaded, loads, ih]

theorem holdsTexts_loaded (loader : Loader) (paths : List String) :
    HoldsTexts loader paths (loaded loader paths) where
  names := names_loaded loader paths
  texts := by
    intro path listed
    cases loads : (loader path).text? with
    | none =>
      rw [Ledger.get?_eq_none_iff, names_loaded, List.mem_eraseDups, List.mem_filter, isLoaded,
        loads]
      exact fun kept => Bool.noConfusion kept.2
    | some content =>
      have named : path ∈ (loaded loader paths).names := by
        rw [names_loaded, List.mem_eraseDups, List.mem_filter, isLoaded, loads]
        exact ⟨listed, rfl⟩
      obtain ⟨held, found⟩ := Ledger.exists_get?_of_mem named
      rw [found, ← text?_of_mem_loaded (Ledger.get?_eq_some_iff.mp found), loads]

/-- **Files that do not load have no part in the texts.** -/
theorem loaded_filter (loader : Loader) (paths : List String) :
    loaded loader (paths.filter (isLoaded loader)) = loaded loader paths := by
  unfold loaded isLoaded
  rw [List.filterMap_filter]
  congr 2
  funext path
  cases (loader path).text? <;> rfl

/-! ### The progress -/

/-- The progress of dealing with some files, in any order. -/
structure CountsUp (paths : List String) (progress : List Progress) : Prop where
  /-- Each file is dealt with once. -/
  each : (progress.map Progress.path).Perm paths
  /-- The files dealt with are counted from one on. -/
  done : progress.map Progress.done = List.range' 1 paths.length
  /-- The number of files is told at each step. -/
  total : ∀ step ∈ progress, step.total = paths.length

theorem map_path_progressFrom (total done : Nat) (paths : List String) :
    (progressFrom total done paths).map Progress.path = paths := by
  induction paths generalizing done with
  | nil => rfl
  | cons path rest ih => rw [progressFrom, List.map_cons, ih]

theorem map_done_progressFrom (total done : Nat) (paths : List String) :
    (progressFrom total done paths).map Progress.done = List.range' (done + 1) paths.length := by
  induction paths generalizing done with
  | nil => rfl
  | cons path rest ih => rw [progressFrom, List.map_cons, ih, List.length_cons, List.range'_succ]

theorem total_of_mem_progressFrom {total done : Nat} {step : Progress}
    (member : step ∈ progressFrom total done paths) : step.total = total := by
  induction paths generalizing done with
  | nil => cases member
  | cons path rest ih =>
    rcases List.mem_cons.mp member with rfl | later
    · rfl
    · exact ih later

/-- **Files that are dealt with in any order are counted one by one.** -/
theorem countsUp_progressFrom {finished : List String} (perm : finished.Perm paths) :
    CountsUp paths (progressFrom paths.length 0 finished) where
  each := by
    rw [map_path_progressFrom]
    exact perm
  done := by rw [map_done_progressFrom, perm.length_eq]
  total := fun _ member => total_of_mem_progressFrom member

/-! ### Failures -/

/-- A listing without the files that do not load. -/
def withoutFailures (loader : Loader) (entries : List Entry) : List Entry :=
  entries.filter fun entry => entry.kind == .directory || isLoaded loader entry.path

theorem filePaths_withoutFailures (loader : Loader) (entries : List Entry) :
    Entry.filePaths (withoutFailures loader entries) =
      (Entry.filePaths entries).filter (isLoaded loader) := by
  unfold Entry.filePaths withoutFailures
  rw [List.filter_map, List.filter_filter, List.filter_filter]
  congr 1
  refine List.filter_congr fun entry _ => ?_
  rw [Function.comp_apply]
  cases entry.kind
  · exact Bool.and_comm true _
  · exact (Bool.and_false _).symm

/-- **A file that is missing or cannot be read costs nothing but itself.** If the loader fails in no
other way, loading returns, however many loads may be under way and in whatever order they are
finished: with the texts of the files that load, which are all that there is to load in the listing
without the others, and with one step of progress for each file, loaded or not. -/
theorem fetch_costsOnlyFailures
    (loads : ∀ path ∈ Entry.filePaths entries, ∀ reason, loader path ≠ .failed reason)
    (schedule : Schedule) :
    ∃ files progress, fetch schedule entries loader = .ok (files, progress) ∧
      HoldsTexts loader (Entry.filePaths entries) files ∧
      CountsUp (Entry.filePaths entries) progress ∧
      ∀ other : Schedule, ∃ steps,
        fetch other (withoutFailures loader entries) loader = .ok (files, steps) := by
  refine ⟨_, _, fetch_eq_ok.mpr ⟨loads, rfl, rfl⟩, holdsTexts_loaded _ _,
    countsUp_progressFrom (finishOrder_perm _ _ _), fun other => ⟨_, fetch_eq_ok.mpr ⟨?_, ?_, rfl⟩⟩⟩
  · rw [filePaths_withoutFailures]
    exact fun path member => loads path (List.mem_filter.mp member).1
  · rw [filePaths_withoutFailures, loaded_filter]

/-- A listing with a directory, an unknown path, a file that cannot be read and one listed twice, of
which the first file is finished last. -/
theorem fetch_costsOnlyFailures_repeatedPath :
    let loader : Loader := fun path =>
      if path = "locked.js" then .unreadable
      else mappingLoader (.ofList [("a.js", "a"), ("b.js", "")]) path
    let entries : List Entry := [{ path := "b.js" }, { path := "gone.js" },
      { path := "lib", kind := .directory }, { path := "a.js" }, { path := "locked.js" },
      { path := "b.js" }]
    (∀ path ∈ Entry.filePaths entries, ∀ reason, loader path ≠ .failed reason) ∧
      ∃ files progress, fetch { limit := 2, choices := [1, 1, 1, 1] } entries loader =
          .ok (files, progress) ∧
        files.names = ["b.js", "a.js"] ∧ files.get? "b.js" = some "" ∧
        files.get? "gone.js" = none ∧ progress.map Progress.done = [1, 2, 3, 4, 5] := by
  intro loader entries
  have listed : Entry.filePaths entries = ["b.js", "gone.js", "a.js", "locked.js", "b.js"] := by
    decide +kernel
  have loads : ∀ path ∈ Entry.filePaths entries, ∀ reason, loader path ≠ .failed reason := by
    rw [listed]
    exact firstFailure?_eq_none_iff.mp (by decide +kernel)
  obtain ⟨files, progress, fetched, texts, steps, -⟩ :=
    fetch_costsOnlyFailures loads { limit := 2, choices := [1, 1, 1, 1] }
  refine ⟨loads, files, progress, fetched, ?_, ?_, ?_, ?_⟩
  · rw [texts.names, listed]
    decide +kernel
  · rw [texts.texts "b.js" (by rw [listed]; decide)]
    decide +kernel
  · rw [texts.texts "gone.js" (by rw [listed]; decide)]
    decide +kernel
  · rw [steps.done, listed]
    rfl

end CodeBrief
