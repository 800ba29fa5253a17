/-
**A session shows its last analysis, and remembers what it was told.**

Analyses, exchanges, touches and queries come in any order, and analyses may fail.

* `Session.analyze_eq_ok` — when an analysis returns, and what it changes: the snapshot, and nothing
  else. `Session.analyze_returns_iff` says when in terms of the listing and the loader alone, without
  the session.
* `Session.Analysis`, `Session.analyses` — the analyses of a run that have returned, with the listing
  and the texts of each.
* `Operation.call?` — what an operation does with the memory. An analysis does nothing with it, and a
  query sets the focus if it names one.
* `settings_run`, `snapshot_run`, `memory_run` — the settings, the snapshot and the memory after a
  run, each by an induction over its operations.
* `run_showsLastAnalysis` — all this for a session that begins with some settings.
-/

import CodeBrief.Proofs.Repository.Loading
import CodeBrief.Proofs.Session.History
import CodeBrief.Proofs.Session.MemoryHistory

namespace CodeBrief.Session

/-! ### Analyses -/

/-- An analysis that has returned. -/
structure Analysis where
  /-- How deep values might lie within each other in a manifest. -/
  room : Nat
  /-- The listing that it is of. -/
  entries : List Entry
  /-- The texts that have been loaded. -/
  files : Ledger String

/-- A snapshot is what is found out about the listing and the texts of an analysis. -/
def Analysis.Gives (analysis : Analysis) (snapshot : Snapshot) : Prop :=
  Snapshot.ofContents analysis.room (Entry.filePaths analysis.entries) analysis.files = .ok snapshot

/-- The analysis of a listing with the texts that a loader loads. -/
def Analysis.ofListing (room : Nat) (entries : List Entry) (loader : Loader) : Analysis where
  room := room
  entries := entries
  files := loaded loader (Entry.filePaths entries)

section Analyze

variable {session next : Session} {room : Nat} {entries : List Entry} {loader : Loader}
  {choices : List Nat} {progress : List Progress}

/-- **When an analysis returns, and what it changes.** -/
theorem analyze_eq_ok :
    session.analyze room entries loader choices = .ok (next, progress) ↔
      ∃ files snapshot,
        fetch ⟨session.settings.listing.maxConcurrent, choices⟩ entries loader =
          .ok (files, progress) ∧
        Snapshot.ofContents room (Entry.filePaths entries) files = .ok snapshot ∧
        { session with snapshot } = next := by
  unfold analyze
  constructor
  · intro done
    obtain ⟨⟨files, fetched⟩, loading, rest⟩ := bind_eq_ok.mp done
    obtain ⟨snapshot, read, same⟩ := bind_eq_ok.mp rest
    cases same
    exact ⟨files, snapshot, mapError_eq_ok.mp loading, mapError_eq_ok.mp read, rfl⟩
  · rintro ⟨files, snapshot, loading, read, rfl⟩
    refine bind_eq_ok.mpr ⟨(files, progress), mapError_eq_ok.mpr loading, ?_⟩
    exact bind_eq_ok.mpr ⟨snapshot, mapError_eq_ok.mpr read, rfl⟩

/-- An analysis that returns replaces the snapshot and nothing else. -/
theorem snapshot_of_analyze
    (done : session.analyze room entries loader choices = .ok (next, progress)) :
    ∃ snapshot, (Analysis.ofListing room entries loader).Gives snapshot ∧
      next = { session with snapshot } := by
  obtain ⟨files, snapshot, loading, read, rfl⟩ := analyze_eq_ok.mp done
  obtain ⟨-, rfl, -⟩ := fetch_eq_ok.mp loading
  exact ⟨snapshot, read, rfl⟩

/-- **An analysis returns just if no load fails and the contents can be read**, whatever the session
has seen before and in whichever order the loads are finished. -/
theorem analyze_returns_iff :
    (∃ outcome, session.analyze room entries loader choices = .ok outcome) ↔
      (∀ path ∈ Entry.filePaths entries, ∀ reason, loader path ≠ .failed reason) ∧
        ∃ snapshot, (Analysis.ofListing room entries loader).Gives snapshot := by
  constructor
  · rintro ⟨⟨next, progress⟩, done⟩
    obtain ⟨files, snapshot, loading, read, -⟩ := analyze_eq_ok.mp done
    obtain ⟨loads, rfl, -⟩ := fetch_eq_ok.mp loading
    exact ⟨loads, snapshot, read⟩
  · rintro ⟨loads, snapshot, read⟩
    exact ⟨_, analyze_eq_ok.mpr ⟨_, snapshot, fetch_eq_ok.mpr ⟨loads, rfl, rfl⟩, read, rfl⟩⟩

end Analyze

/-- The analysis that an operation comes to in a session, if it is one that returns. -/
def analysis? (session : Session) : Operation → Option Analysis
  | .analyze room entries loader choices =>
    match session.analyze room entries loader choices with
    | .ok _ => some (.ofListing room entries loader)
    | .error _ => none
  | .analyzeTree room tree =>
    let listing := session.settings.listing
    match tree.list listing.excludePatterns listing.maxFileSize, session.analyzeTree room tree with
    | .ok entries, .ok _ => some (.ofListing room entries (treeLoader tree))
    | _, _ => none
  | _ => none

/-- The analyses of a run that return, in their order. -/
def analyses : Session → List Operation → List Analysis
  | _, [] => []
  | session, operation :: rest =>
    (session.analysis? operation).toList ++ (session.after operation).analyses rest

/-- A snapshot is what the last of some analyses gives, or the one before if there is none. -/
def ShowsLast (before : Snapshot) (analyses : List Analysis) (snapshot : Snapshot) : Prop :=
  match analyses.getLast? with
  | some analysis => analysis.Gives snapshot
  | none => snapshot = before

/-- What an operation does with the memory. -/
def Operation.call? : Operation → Option Memory.Call
  | .remember now exchange => some (.record now exchange)
  | .touch path => some (.touch path)
  | .setFocus focus => some (.setFocus focus)
  | .ask _ options => options.focus.map fun area => .setFocus (some area)
  | .analyze .. => none
  | .analyzeTree .. => none

/-! ### One operation -/

/-- The analysis of a tree is one of its listing. -/
theorem analyzeTree_eq_ok {session next : Session} {room : Nat} {tree : FileTree} :
    session.analyzeTree room tree = .ok next ↔
      ∃ entries progress,
        tree.list session.settings.listing.excludePatterns session.settings.listing.maxFileSize =
          .ok entries ∧
        session.analyze room entries (treeLoader tree) [] = .ok (next, progress) := by
  unfold analyzeTree
  constructor
  · intro done
    obtain ⟨entries, listed, rest⟩ := bind_eq_ok.mp done
    obtain ⟨⟨analysed, progress⟩, analysis, same⟩ := bind_eq_ok.mp rest
    cases same
    exact ⟨entries, progress, mapError_eq_ok.mp listed, analysis⟩
  · rintro ⟨entries, progress, listed, analysis⟩
    refine bind_eq_ok.mpr ⟨entries, mapError_eq_ok.mpr listed, ?_⟩
    exact bind_eq_ok.mpr ⟨(next, progress), analysis, rfl⟩

/-- A query changes the focus if it names one, and nothing else. -/
theorem focusOn_eq (session : Session) (options : BriefOptions) :
    session.focusOn options =
      { session with
        memory := { session.memory with focus := options.focus.or session.memory.focus } } := by
  unfold focusOn
  cases options.focus <;> rfl

/-- **What an operation changes of the snapshot**: the analysis that it comes to is shown, if there
is one. -/
theorem snapshot_after (session : Session) (operation : Operation) :
    ShowsLast session.snapshot (session.analysis? operation).toList
      (session.after operation).snapshot := by
  cases operation with
  | analyze room entries loader choices =>
    simp only [analysis?, after]
    cases done : session.analyze room entries loader choices with
    | ok outcome =>
      obtain ⟨next, progress⟩ := outcome
      obtain ⟨snapshot, given, rfl⟩ := snapshot_of_analyze done
      exact given
    | error error => rfl
  | analyzeTree room tree =>
    simp only [analysis?, after]
    cases done : session.analyzeTree room tree with
    | ok next =>
      obtain ⟨entries, progress, listed, analysis⟩ := analyzeTree_eq_ok.mp done
      obtain ⟨snapshot, given, rfl⟩ := snapshot_of_analyze analysis
      rw [listed]
      exact given
    | error error =>
      split
      · contradiction
      · rfl
  | remember now exchange => rfl
  | touch path => rfl
  | setFocus focus => rfl
  | ask query options => exact snapshot_focusOn session options

/-- **What an operation changes besides the snapshot**: the memory, by the call that it makes. -/
theorem after_eq (session : Session) (operation : Operation) :
    session.after operation =
      { session with
        memory := session.memory.run operation.call?.toList
        snapshot := (session.after operation).snapshot } := by
  cases operation with
  | analyze room entries loader choices =>
    simp only [after]
    split
    · rename_i next progress done
      obtain ⟨snapshot, -, rfl⟩ := snapshot_of_analyze done
      rfl
    · rfl
  | analyzeTree room tree =>
    simp only [after]
    split
    · rename_i next done
      obtain ⟨entries, progress, -, analysis⟩ := analyzeTree_eq_ok.mp done
      obtain ⟨snapshot, -, rfl⟩ := snapshot_of_analyze analysis
      rfl
    · rfl
  | remember now exchange => rfl
  | touch path => rfl
  | setFocus focus => rfl
  | ask query options =>
    obtain ⟨maxTokens, includeAnalysis, includeMemory, focus⟩ := options
    cases focus <;> rfl

/-! ### Runs -/

theorem ShowsLast.append {first second third : Snapshot} {earlier later : List Analysis}
    (before : ShowsLast first earlier second) (after : ShowsLast second later third) :
    ShowsLast first (earlier ++ later) third := by
  unfold ShowsLast at *
  rw [List.getLast?_append]
  cases last : later.getLast? with
  | some analysis =>
    rw [last] at after
    exact after
  | none =>
    rw [last] at after
    rw [after]
    exact before

theorem settings_run (session : Session) (operations : List Operation) :
    (session.run operations).settings = session.settings := by
  induction operations generalizing session with
  | nil => rfl
  | cons operation rest ih =>
    show ((session.after operation).run rest).settings = session.settings
    rw [ih, after_eq]

/-- **The snapshot of the last analysis that returned is shown.** -/
theorem snapshot_run (session : Session) (operations : List Operation) :
    ShowsLast session.snapshot (session.analyses operations) (session.run operations).snapshot := by
  induction operations generalizing session with
  | nil => rfl
  | cons operation rest ih =>
    exact (snapshot_after session operation).append (ih (session.after operation))

/-- **The memory is one that was told all but the analyses.** -/
theorem memory_run (session : Session) (operations : List Operation) :
    (session.run operations).memory =
      session.memory.run (operations.filterMap Operation.call?) := by
  induction operations generalizing session with
  | nil => rfl
  | cons operation rest ih =>
    show ((session.after operation).run rest).memory = _
    have told : (session.after operation).memory = session.memory.run operation.call?.toList := by
      rw [after_eq]
    rw [ih, told, List.filterMap_cons]
    cases operation.call? <;> rfl

/-! ### The outcome of an analysis -/

/-- What an analysis does at some point of a history. -/
structure AnalysisOutcome (session : Session) (room : Nat) (entries : List Entry)
    (loader : Loader) (choices : List Nat) : Prop where
  /-- It returns just if no load fails and the contents can be read. -/
  returns_iff : (∃ outcome, session.analyze room entries loader choices = .ok outcome) ↔
    (∀ path ∈ Entry.filePaths entries, ∀ reason, loader path ≠ .failed reason) ∧
      ∃ snapshot, (Analysis.ofListing room entries loader).Gives snapshot
  /-- If it returns, it replaces the snapshot and nothing else. -/
  returned : ∀ next progress, session.analyze room entries loader choices = .ok (next, progress) →
    session.after (.analyze room entries loader choices) = next ∧
      ∃ snapshot, (Analysis.ofListing room entries loader).Gives snapshot ∧
        next = { session with snapshot }
  /-- If it fails, the session stays as it is. -/
  failed : ∀ error, session.analyze room entries loader choices = .error error →
    session.after (.analyze room entries loader choices) = session

theorem analysisOutcome (session : Session) (room : Nat) (entries : List Entry)
    (loader : Loader) (choices : List Nat) : session.AnalysisOutcome room entries loader choices where
  returns_iff := analyze_returns_iff
  returned next progress done := by
    refine ⟨?_, snapshot_of_analyze done⟩
    simp only [after, done]
  failed error fails := by
    simp only [after, fails]

/-- **At any point of any history, a session shows its last analysis that returned** (the snapshot of
no files if there is none) and remembers what it was told, analyses left out. An analysis that fails
leaves the session as it is, one that returns replaces the snapshot and nothing else, and a query
changes the focus at most, just if it names one. -/
theorem run_showsLastAnalysis (settings : Settings) (operations : List Operation) :
    let session := (withSettings settings).run operations
    ShowsLast {} ((withSettings settings).analyses operations) session.snapshot ∧
    session.memory =
      (Memory.withLimits settings.memory).run (operations.filterMap Operation.call?) ∧
    session.settings = settings ∧
    (∀ room entries loader choices, session.AnalysisOutcome room entries loader choices) ∧
    ∀ query options, (session.brief query options).1 =
      { session with
        memory := { session.memory with focus := options.focus.or session.memory.focus } } := by
  intro session
  refine ⟨snapshot_run _ operations, memory_run _ operations, settings_run _ operations, ?_, ?_⟩
  · exact fun room entries loader choices => session.analysisOutcome room entries loader choices
  · exact fun query options => session.focusOn_eq options

end CodeBrief.Session
