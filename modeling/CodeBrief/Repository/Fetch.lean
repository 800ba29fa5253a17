/-
**Loading files.**

The files of a listing are loaded, a limited number of them at the same time. A file that is missing
or cannot be read is left out; a loader that fails in another way ends the loading.

* `Schedule` — how many files are loaded at the same time, and in which order they are finished.
* `finishOrder_perm` — whatever the schedule, each file is finished once.
* `fetch` — the texts of the files of a listing, and how the loading went on.
-/

import CodeBrief.Repository.Entry

namespace CodeBrief

/-- What comes of loading a file. -/
inductive LoadResult where
  /-- Its text. -/
  | text (content : String)
  /-- The file is missing. -/
  | missing
  /-- The file cannot be read. -/
  | unreadable
  /-- The loader fails, for some reason. -/
  | failed (reason : String)
  deriving DecidableEq, Repr

/-- What loads a file of some path. -/
abbrev Loader := String → LoadResult

/-- A loader that fails. -/
structure LoaderFailure where
  /-- The reason. -/
  reason : String
  deriving DecidableEq, Repr

/-! ### Schedules -/

/-- How the loads of some files go on. A load is begun, in the order of the files, as soon as fewer
loads are under way than there may be. -/
structure Schedule where
  /-- The number of loads that may be under way at the same time; there may always be one. -/
  limit : Int := 16
  /-- Which of the loads under way are finished next, each told by the number of loads under way
  that were begun before it. A choice of no load is passed over; after the last choice the loads are
  finished in the order in which they are begun. -/
  choices : List Nat := []
  deriving DecidableEq, Repr, Inhabited

/-- The number of loads that may be under way at the same time. -/
def Schedule.room (schedule : Schedule) : Nat :=
  max 1 schedule.limit.toNat

/-- The order in which loads are finished, of which the first `room` ones that are left are under
way at any time. -/
def finishOrder {α : Type} (room : Nat) : (choices : List Nat) → (left : List α) → List α
  | [], left => left
  | choice :: choices, left =>
    match (left.take room)[choice]? with
    | some next => next :: finishOrder room choices (left.eraseIdx choice)
    | none => finishOrder room choices left

/-- An element in front of the list without it. -/
theorem cons_eraseIdx_perm {α : Type} {left : List α} {place : Nat} {next : α}
    (found : left[place]? = some next) : (next :: left.eraseIdx place).Perm left := by
  induction left generalizing place with
  | nil => simp at found
  | cons first rest ih =>
    cases place with
    | zero =>
      rw [List.getElem?_cons_zero, Option.some.injEq] at found
      rw [found, List.eraseIdx_cons_zero]
    | succ place =>
      rw [List.getElem?_cons_succ] at found
      rw [List.eraseIdx_cons_succ]
      exact (List.Perm.swap first next _).trans ((ih found).cons first)

/-- Whatever the schedule, each load is finished once. -/
theorem finishOrder_perm {α : Type} (room : Nat) (choices : List Nat) (left : List α) :
    (finishOrder room choices left).Perm left := by
  induction choices generalizing left with
  | nil => exact .refl _
  | cons choice choices ih =>
    unfold finishOrder
    split
    case h_1 finished found =>
      have there : left[choice]? = some finished := by
        rw [List.getElem?_take] at found
        split at found
        · exact found
        · contradiction
      exact ((ih _).cons finished).trans (cons_eraseIdx_perm there)
    case h_2 => exact ih left

/-! ### Loading -/

/-- That a file has been dealt with. -/
structure Progress where
  /-- The path of the file. -/
  path : String
  /-- The number of files dealt with so far. -/
  done : Nat
  /-- The number of files. -/
  total : Nat
  deriving DecidableEq, Repr

/-- The text that has been loaded, if one has. -/
def LoadResult.text? : LoadResult → Option String
  | .text content => some content
  | _ => none

/-- The first failure of a loader on some paths. -/
def firstFailure? (loader : Loader) (paths : List String) : Option LoaderFailure :=
  paths.findSome? fun path => match loader path with
    | .failed reason => some ⟨reason⟩
    | _ => none

/-- The texts of some paths, without those that are not loaded. -/
def loaded (loader : Loader) (paths : List String) : Ledger String :=
  .ofList (paths.filterMap fun path => ((loader path).text?).map fun content => (path, content))

/-- That the files of some paths have been dealt with in order, after `done` others. -/
def progressFrom (total done : Nat) : List String → List Progress
  | [] => []
  | path :: rest => ⟨path, done + 1, total⟩ :: progressFrom total (done + 1) rest

/-- The texts of the files of a listing in the order of the listing, and the progress of loading
them in the order in which they are finished. -/
def fetch (schedule : Schedule) (entries : List Entry) (loader : Loader) :
    Except LoaderFailure (Ledger String × List Progress) :=
  let paths := Entry.filePaths entries
  let finished := finishOrder schedule.room schedule.choices paths
  match firstFailure? loader finished with
  | some failure => .error failure
  | none => .ok (loaded loader paths, progressFrom paths.length 0 finished)

/-- The loader of texts under paths. -/
def mappingLoader (files : Ledger String) : Loader := fun path =>
  match files.get? path with
  | some content => .text content
  | none => .missing

/-- The wording of a file that is missing. -/
def missingMessage (path : String) : String :=
  "File not found in repository: " ++ path

end CodeBrief
