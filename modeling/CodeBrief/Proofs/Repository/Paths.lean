/-
**Normal paths.**

A path is normal if it is relative and none of its names is empty or made of one or two dots. Such a
path and its names tell each other, and the directories above it are told by the proper initial
segments of its names.

* `pathOf_names`, `names_pathOf` — a normal path has the names from which it is put together.
* `mem_parents` — the paths of the directories above it.
-/

import CodeBrief.Proofs.Text.Pieces
import CodeBrief.Repository.FileTree

namespace CodeBrief

/-- A name that leads from one directory on, also the one that leads up. -/
structure IsStep (name : String) : Prop where
  nonempty : name ≠ ""
  notHere : name ≠ "."
  noSlash : '/' ∉ name.toList

/-- A name of a file or directory. -/
structure IsName (name : String) : Prop where
  nonempty : name ≠ ""
  notHere : name ≠ "."
  notUpward : name ≠ FileTree.upward
  noSlash : '/' ∉ name.toList

theorem IsName.isStep {name : String} (isName : IsName name) : IsStep name :=
  ⟨isName.nonempty, isName.notHere, isName.noSlash⟩

namespace Path

open FileTree (pathOf)

/-- A relative path without empty names and dots. -/
def IsNormal (path : String) : Prop :=
  ∀ segment ∈ segments path, segment ≠ [] ∧ segment ≠ ['.'] ∧ segment ≠ ['.', '.']

instance : DecidablePred IsNormal := fun path =>
  inferInstanceAs (Decidable (∀ segment ∈ segments path, _))

/-! ### Names -/

theorem segments_pathOf {names : List String} (nonempty : names ≠ [])
    (free : ∀ name ∈ names, '/' ∉ name.toList) :
    segments (pathOf names) = names.map String.toList := by
  have parts : ∀ part ∈ names.map String.toList, '/' ∉ part := by
    intro part member
    obtain ⟨name, within, rfl⟩ := List.mem_map.mp member
    exact free name within
  have chars : (pathOf names).toList = ['/'].intercalate (names.map String.toList) :=
    String.toList_intercalate
  rw [segments, chars, Text.pieces_intercalate parts (by simpa using nonempty)]

/-- The path of some steps has these as its names. -/
theorem names_pathOf_of_isStep {steps : List String} (are : ∀ step ∈ steps, IsStep step) :
    Path.names (pathOf steps) = steps := by
  by_cases empty : steps = []
  · rw [empty]
    decide
  · have kept : ∀ segment ∈ steps.map String.toList,
        (!segment.isEmpty && segment != ['.']) = true := by
      intro segment member
      obtain ⟨step, within, rfl⟩ := List.mem_map.mp member
      have nonempty : step.toList ≠ [] := by simpa using (are step within).nonempty
      have notHere : step.toList ≠ ['.'] := fun same =>
        (are step within).notHere (String.toList_inj.mp same)
      simp [nonempty, notHere]
    rw [Path.names, segments_pathOf empty fun step member => (are step member).noSlash,
      List.filter_eq_self.mpr kept, List.map_map]
    exact (List.map_congr_left fun step _ => String.ofList_toList).trans (List.map_id steps)

/-- The path of some names has these names. -/
theorem names_pathOf {names : List String} (are : ∀ name ∈ names, IsName name) :
    Path.names (pathOf names) = names :=
  names_pathOf_of_isStep fun name member => (are name member).isStep

/-- Each name of a path leads on. -/
theorem isStep_of_mem_names {path name : String} (member : name ∈ Path.names path) :
    IsStep name := by
  rw [Path.names, List.mem_map] at member
  obtain ⟨segment, within, rfl⟩ := member
  rw [List.mem_filter, Bool.and_eq_true, Bool.not_eq_eq_eq_not, Bool.not_true,
    List.isEmpty_eq_false_iff, bne_iff_ne] at within
  obtain ⟨piece, nonempty, notHere⟩ := within
  refine ⟨fun same => nonempty ?_, fun same => notHere ?_, fun slash => ?_⟩
  · rw [← String.toList_ofList (l := segment), same]
    rfl
  · rw [← String.toList_ofList (l := segment), same]
    rfl
  · rw [String.toList_ofList] at slash
    simpa using Text.not_separates_of_mem_pieces piece _ slash

/-- The path of some names is normal. -/
theorem isNormal_pathOf {names : List String} (nonempty : names ≠ [])
    (are : ∀ name ∈ names, IsName name) : IsNormal (pathOf names) := by
  intro segment member
  rw [segments_pathOf nonempty fun name within => (are name within).noSlash] at member
  obtain ⟨name, within, rfl⟩ := List.mem_map.mp member
  refine ⟨by simpa using (are name within).nonempty, fun same => ?_, fun same => ?_⟩
  · exact (are name within).notHere (String.toList_inj.mp same)
  · exact (are name within).notUpward (String.toList_inj.mp same)

theorem pathOf_eq_empty {names : List String} (are : ∀ name ∈ names, IsName name) :
    pathOf names = "" ↔ names = [] := by
  constructor
  · intro empty
    rw [← names_pathOf are, empty]
    decide
  · rintro rfl
    rfl

section Normal

variable {path : String} (normal : IsNormal path)
include normal

theorem names_of_isNormal : Path.names path = (segments path).map String.ofList := by
  have kept : ∀ segment ∈ segments path, (!segment.isEmpty && segment != ['.']) = true := by
    intro segment member
    simp [(normal segment member).1, (normal segment member).2.1]
  rw [Path.names, List.filter_eq_self.mpr kept]

theorem names_ne_nil : Path.names path ≠ [] := by
  rw [names_of_isNormal normal, segments, Text.pieces_eq_splitOnP]
  simp

/-- The names of a normal path. -/
theorem isName_of_mem_names {name : String} (member : name ∈ Path.names path) : IsName name := by
  obtain ⟨nonempty, notHere, noSlash⟩ := isStep_of_mem_names member
  rw [names_of_isNormal normal] at member
  obtain ⟨segment, within, rfl⟩ := List.mem_map.mp member
  refine ⟨nonempty, notHere, fun same => (normal segment within).2.2 ?_, noSlash⟩
  rw [← String.toList_ofList (l := segment), same]
  rfl

/-- **A normal path is put together from its names.** -/
theorem pathOf_names : pathOf (Path.names path) = path := by
  refine String.toList_inj.mp ?_
  rw [names_of_isNormal normal, pathOf, String.toList_intercalate, List.map_map]
  have same : (segments path).map (String.toList ∘ String.ofList) = segments path :=
    (List.map_congr_left fun segment _ => String.toList_ofList).trans (List.map_id _)
  rw [same]
  exact Text.intercalate_pieces '/' path.toList

/-- A normal path has no root. -/
theorem root_of_isNormal : root path = "" := by
  have relative : ∀ rest, path.toList ≠ '/' :: rest := by
    intro rest slash
    have first : [] ∈ segments path := by
      rw [segments, slash, Text.pieces_eq_splitOnP, List.splitOnP_cons_eq_if_modifyHead,
        if_pos (beq_self_eq_true '/')]
      exact List.mem_cons_self
    exact (normal [] first).1 rfl
  unfold root
  split
  · exact absurd ‹_› (relative _)
  · exact absurd ‹_› (relative _)
  · exact absurd ‹_› (relative _)
  · rfl

end Normal

/-! ### Directories above -/

/-- The proper initial segments of a list. -/
theorem mem_initials {α : Type} {above xs : List α} :
    above ∈ initials xs ↔ above <+: xs ∧ above ≠ xs := by
  induction xs generalizing above with
  | nil => simp [initials]
  | cons x xs ih =>
    cases above with
    | nil => simp [initials]
    | cons y above =>
      simp only [initials, List.mem_cons, reduceCtorEq, false_or, List.mem_map, ih,
        List.cons_prefix_cons, ne_eq, List.cons.injEq, not_and]
      constructor
      · rintro ⟨above', ⟨before, proper⟩, rfl, rfl⟩
        exact ⟨⟨rfl, before⟩, fun _ => proper⟩
      · rintro ⟨⟨rfl, before⟩, proper⟩
        exact ⟨above, ⟨before, proper rfl⟩, rfl, rfl⟩

/-- **The directories above a normal path are told by the proper initial segments of its names.** -/
theorem mem_parents {path parent : String} (normal : IsNormal path) :
    parent ∈ parents path ↔ ∃ above, above <+: Path.names path ∧ above ≠ Path.names path ∧
      above ≠ [] ∧ pathOf above = parent := by
  have nonempty : ∀ above, above <+: Path.names path → (pathOf above = "" ↔ above = []) := by
    intro above before
    exact pathOf_eq_empty fun name member => isName_of_mem_names normal (before.subset member)
  have path_eq : assemble (root path) = pathOf := by
    funext names
    rw [assemble, root_of_isNormal normal, String.empty_append, pathOf]
  simp only [parents, path_eq, List.mem_filter, List.mem_map, mem_initials,
    Bool.not_eq_eq_eq_not, Bool.not_true, String.isEmpty_eq_false_iff]
  constructor
  · rintro ⟨⟨above, ⟨before, proper⟩, rfl⟩, kept⟩
    exact ⟨above, before, proper, fun empty => kept ((nonempty above before).mpr empty), rfl⟩
  · rintro ⟨above, before, proper, kept, rfl⟩
    exact ⟨⟨above, ⟨before, proper⟩, rfl⟩, fun empty => kept ((nonempty above before).mp empty)⟩

/-- What lies above a directory above a path lies above the path. -/
theorem parents_trans {path between above : String} (normal : IsNormal path)
    (inner : between ∈ parents path) (outer : above ∈ parents between) : above ∈ parents path := by
  obtain ⟨names, before, proper, nonempty, rfl⟩ := (mem_parents normal).mp inner
  have are : ∀ name ∈ names, IsName name := fun name within =>
    isName_of_mem_names normal (before.subset within)
  obtain ⟨names', before', proper', nonempty', rfl⟩ :=
    (mem_parents (isNormal_pathOf nonempty are)).mp outer
  rw [names_pathOf are] at before' proper'
  refine (mem_parents normal).mpr ⟨names', before'.trans before, ?_, nonempty', rfl⟩
  rintro rfl
  exact proper' (before'.eq_of_length_le before.length_le)

end Path

end CodeBrief
