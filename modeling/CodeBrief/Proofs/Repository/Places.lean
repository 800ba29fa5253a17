/-
**Places and their paths.**

A place is told by steps from the directory in which paths begin, or from the root of the system. Its
path tells where it begins and which steps there are, so that no two places have one path. So what is
put at a place is found there, and nothing changes at any other place.

* `IsPlace` — the lists of names that are places.
* `names_pathOf_place`, `startOf_pathOf_place` — what the path of a place tells.
* `node?_set` — what lies where once something has been put at a place.
* `IsOpen` — a place to which all directories on the way are there; `isOpen_above`, `isOpen_enter` — so
  are the ones above and below it.
-/

import CodeBrief.Proofs.Ledger
import CodeBrief.Proofs.Repository.Paths

namespace CodeBrief.FileTree

/-- Where a place may begin: where paths begin, or at the root of the system. -/
def IsStart (start : List String) : Prop :=
  start = [] ∨ start = [SystemPlaces.root]

/-- A place: steps from where it begins. -/
def IsPlace (place : List String) : Prop :=
  ∃ start steps, IsStart start ∧ place = start ++ steps ∧ ∀ step ∈ steps, IsStep step

theorem isStep_upward : IsStep upward := ⟨by decide, by decide, by decide⟩

theorem IsPlace.append {place steps : List String} (isPlace : IsPlace place)
    (are : ∀ step ∈ steps, IsStep step) : IsPlace (place ++ steps) := by
  obtain ⟨start, before, isStart, rfl, areBefore⟩ := isPlace
  refine ⟨start, before ++ steps, isStart, List.append_assoc _ _ _, fun step member => ?_⟩
  rcases List.mem_append.mp member with inBefore | inSteps
  · exact areBefore step inBefore
  · exact are step inSteps

theorem IsPlace.dropLast {place : List String} (isPlace : IsPlace place) : IsPlace place.dropLast := by
  obtain ⟨start, steps, isStart, rfl, are⟩ := isPlace
  rcases List.eq_nil_or_concat' steps with rfl | ⟨before, last, rfl⟩
  · refine ⟨[], [], Or.inl rfl, ?_, nofun⟩
    rcases isStart with rfl | rfl <;> rfl
  · refine ⟨start, before, isStart, ?_, fun step member => are step (List.mem_append_left _ member)⟩
    rw [← List.append_assoc, List.dropLast_concat]

/-! ### Paths -/

/-- A slash in front adds no name. -/
theorem names_slash {path rest : String} (slash : path.toList = '/' :: rest.toList) :
    Path.names path = Path.names rest := by
  have parts : Path.segments path = [] :: Path.segments rest := by
    rw [Path.segments, slash]
    exact Text.pieces_append rfl [] rest.toList
  rw [Path.names, parts]
  rfl

theorem isEmpty_root_iff (path : String) :
    (Path.root path).isEmpty = true ↔ path.toList.head? ≠ some '/' := by
  unfold Path.root
  cases path.toList with
  | nil => decide
  | cons c rest => split <;> simp_all

theorem toList_pathOf_root {first : String} {rest : List String} :
    (pathOf (SystemPlaces.root :: first :: rest)).toList =
      '/' :: ("/" ++ pathOf (first :: rest)).toList := by
  rw [pathOf, String.intercalate_cons_cons]
  simp [pathOf, SystemPlaces.root]

section Told

variable {start steps : List String} (isStart : IsStart start) (are : ∀ step ∈ steps, IsStep step)
include are

theorem head?_pathOf : (pathOf steps).toList.head? ≠ some '/' := by
  cases steps with
  | nil => decide
  | cons step rest =>
    have isStep := are step List.mem_cons_self
    have nonempty : step.toList ≠ [] := by simpa using isStep.nonempty
    obtain ⟨c, more, spelling⟩ := List.exists_cons_of_ne_nil nonempty
    have first : (pathOf (step :: rest)).toList.head? = some c := by
      rw [pathOf, String.toList_intercalate, List.map_cons, spelling]
      cases rest.map String.toList with
      | nil => rfl
      | cons text others => rfl
    rw [first]
    rintro ⟨⟩
    exact isStep.noSlash (by simp [spelling])

include isStart

/-- **The path of a place tells the steps to it.** -/
theorem names_pathOf_place : Path.names (pathOf (start ++ steps)) = steps := by
  have relative := Path.names_pathOf_of_isStep are
  rcases isStart with rfl | rfl
  · exact relative
  · cases steps with
    | nil => decide
    | cons step rest =>
      have slash : ("/" ++ pathOf (step :: rest)).toList = '/' :: (pathOf (step :: rest)).toList := by
        simp
      exact (names_slash toList_pathOf_root).trans ((names_slash slash).trans relative)

/-- **The path of a place tells where it begins.** -/
theorem startOf_pathOf_place (here : List String) :
    startOf here (pathOf (start ++ steps)) = if start = [] then here else start := by
  have relative := head?_pathOf are
  unfold startOf
  simp only [isEmpty_root_iff]
  rcases isStart with rfl | rfl
  · rw [List.nil_append, if_pos relative, if_pos rfl]
  · have slash : (pathOf ([SystemPlaces.root] ++ steps)).toList.head? = some '/' := by
      cases steps with
      | nil => decide
      | cons step rest => exact congrArg List.head? toList_pathOf_root
    rw [slash, if_neg (by simp), if_neg (by simp)]

end Told

/-- A place is told by its path. -/
theorem told_pathOf {place : List String} (isPlace : IsPlace place) :
    startOf [] (pathOf place) ++ Path.names (pathOf place) = place := by
  obtain ⟨start, steps, isStart, rfl, are⟩ := isPlace
  rw [startOf_pathOf_place isStart are, names_pathOf_place isStart are]
  split
  · rename_i same
    rw [same]
  · rfl

/-- **No two places have one path.** -/
theorem pathOf_inj {place other : List String} (isPlace : IsPlace place) (isOther : IsPlace other) :
    pathOf place = pathOf other ↔ place = other := by
  constructor
  · intro same
    rw [← told_pathOf isPlace, same, told_pathOf isOther]
  · rintro rfl
    rfl

/-! ### What lies at a place -/

section Node

variable {tree : FileTree} {place other : List String} {node : Node}

theorem node?_of_isAtOrAbove (isUp : isAtOrAbove place = true) :
    tree.node? place = some .directory :=
  if_pos isUp

/-- **What is put at a place lies there**, and at every other place what lay there before. -/
theorem node?_set (isPlace : IsPlace place) (isOther : IsPlace other)
    (free : tree.node? place ≠ some .directory) :
    (tree.set place node).node? other = if other = place then some node else tree.node? other := by
  have below : isAtOrAbove place ≠ true := fun isUp => free (node?_of_isAtOrAbove isUp)
  by_cases isUp : isAtOrAbove other = true
  · have different : other ≠ place := by
      rintro rfl
      exact below isUp
    rw [if_neg different, node?_of_isAtOrAbove isUp, node?_of_isAtOrAbove isUp]
  · unfold node?
    rw [if_neg isUp, if_neg isUp, set, Ledger.get?_put]
    simp only [pathOf_inj isOther isPlace]
    split <;> rfl

theorem node?_set_self (isPlace : IsPlace place) (free : tree.node? place ≠ some .directory) :
    (tree.set place node).node? place = some node := by
  rw [node?_set isPlace isPlace free, if_pos rfl]

theorem node?_set_of_ne (isPlace : IsPlace place) (isOther : IsPlace other)
    (free : tree.node? place ≠ some .directory) (different : other ≠ place) :
    (tree.set place node).node? other = tree.node? other := by
  rw [node?_set isPlace isOther free, if_neg different]

end Node

/-! ### Open places -/

/-- All directories on the way to a place are there, and the place is one. -/
structure IsOpen (tree : FileTree) (place : List String) : Prop where
  isPlace : IsPlace place
  inside : ∀ above, above <+: place → tree.node? above = some .directory

section Open

variable {tree : FileTree} {here : List String}

theorem IsOpen.node? (isOpen : tree.IsOpen here) : tree.node? here = some .directory :=
  isOpen.inside here List.prefix_rfl

theorem isOpen_of_isAtOrAbove (isPlace : IsPlace here) (isUp : isAtOrAbove here = true) :
    tree.IsOpen here := by
  refine ⟨isPlace, fun above before => node?_of_isAtOrAbove (List.all_eq_true.mpr ?_)⟩
  exact fun name member => List.all_eq_true.mp isUp name (before.subset member)

theorem isOpen_nil (tree : FileTree) : tree.IsOpen [] :=
  isOpen_of_isAtOrAbove ⟨[], [], Or.inl rfl, rfl, nofun⟩ rfl

/-- The directory above an open place. -/
theorem isOpen_above (isOpen : tree.IsOpen here) : tree.IsOpen (above here) := by
  unfold above
  split
  · rename_i isUp
    refine isOpen_of_isAtOrAbove (isOpen.isPlace.append ?_) ?_
    · intro step member
      rw [List.mem_singleton.mp member]
      exact isStep_upward
    · rw [isAtOrAbove, List.all_append, Bool.and_eq_true]
      exact ⟨isUp, rfl⟩
  · split
    · exact isOpen
    · exact ⟨isOpen.isPlace.dropLast, fun above before =>
        isOpen.inside above (before.trans (List.dropLast_prefix here))⟩

theorem isPlace_enter {name : String} (isPlace : IsPlace here) (isStep : IsStep name) :
    IsPlace (tree.enter here name) := by
  unfold enter
  split
  · exact ⟨[], [], Or.inl rfl, rfl, nofun⟩
  · refine isPlace.append fun step member => ?_
    rw [List.mem_singleton.mp member]
    exact isStep

/-- A directory in an open place. -/
theorem isOpen_enter {name : String} (isOpen : tree.IsOpen here) (isStep : IsStep name)
    (directory : tree.node? (tree.enter here name) = some .directory) :
    tree.IsOpen (tree.enter here name) := by
  refine ⟨isPlace_enter isOpen.isPlace isStep, fun above before => ?_⟩
  unfold enter at before directory
  split at before
  · rw [List.prefix_nil.mp before]
    rfl
  · rename_i ordinary
    rw [if_neg ordinary] at directory
    rcases List.prefix_concat_iff.mp before with rfl | earlier
    · exact directory
    · exact isOpen.inside above earlier

end Open

/-- Paths begin at an open place, and so does the system. -/
structure IsAnchored (tree : FileTree) : Prop where
  base : tree.IsOpen tree.base
  root : tree.node? [SystemPlaces.root] = some .directory

theorem IsAnchored.isOpen_startOf {tree : FileTree} (anchored : tree.IsAnchored) {here : List String}
    (isOpen : tree.IsOpen here) (path : String) : tree.IsOpen (startOf here path) := by
  unfold startOf
  split
  · exact isOpen
  · refine ⟨⟨_, [], Or.inr rfl, rfl, nofun⟩, fun above before => ?_⟩
    have first : above <+: [] ++ [SystemPlaces.root] := before
    rcases List.prefix_concat_iff.mp first with rfl | empty
    · exact anchored.root
    · rw [List.prefix_nil.mp empty]
      rfl

end CodeBrief.FileTree
