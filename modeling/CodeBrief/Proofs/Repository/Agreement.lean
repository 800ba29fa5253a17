/-
**The two listings agree.**

Texts under normal paths can be listed as they are, or as the files of a directory that holds them
and nothing else. The listing of the directory is that of the texts without what is left out and
what is too large: a walk comes to what is not left out (`walk_perm`), and both listings are sorted
by path, under which nothing else is listed.

* `listWithout_eq` — the agreement for any patterns and any greatest size.
* `parents_mem_keptEntries` — what lies above something listed is listed.
* `list_agrees` — both for the patterns of the settings with those of the directory itself.
-/

import CodeBrief.Proofs.Ranking
import CodeBrief.Proofs.Repository.Holding

namespace CodeBrief.FileTree

/-! ### Entries -/

/-- The entries of the listing of some texts that are not left out and not too large. -/
def keptEntries (files : Ledger String) (patterns : List String) (maxSize : Int) : List Entry :=
  (listMapping files).filter fun entry =>
    !isLeftOut patterns entry.path && isListed maxSize entry

theorem listMapping_eq (files : Ledger String) :
    listMapping files = Entry.sort ((heldNodes files).map fun entry => entryOf entry.1 entry.2) := by
  rw [listMapping, heldNodes, List.map_append, List.map_map, List.map_map]
  congr 2
  refine List.map_congr_left fun file _ => ?_
  simp only [Function.comp_apply, entryOf, Node.size, Text.Utf8.length_toUTF8, reduceCtorEq,
    if_false]

theorem mem_listMapping {files : Ledger String} {entry : Entry} :
    entry ∈ listMapping files ↔
      ∃ node, IsHeld files entry.path node ∧ entryOf entry.path node = entry := by
  rw [listMapping_eq, Entry.sort, (sortBy_perm _ _).mem_iff, List.mem_map]
  constructor
  · rintro ⟨⟨path, node⟩, member, rfl⟩
    exact ⟨node, mem_heldNodes.mp member, rfl⟩
  · rintro ⟨node, held, same⟩
    exact ⟨(entry.path, node), mem_heldNodes.mpr held, same⟩

theorem textLe_path_total (left right : Entry) :
    textLe left.path right.path = true ∨ textLe right.path left.path = true := by
  rw [textLe_iff, textLe_iff]
  exact le_total _ _

theorem textLe_path_trans (first second third : Entry)
    (one : textLe first.path second.path = true) (other : textLe second.path third.path = true) :
    textLe first.path third.path = true :=
  textLe_iff.mpr ((textLe_iff.mp one).trans (textLe_iff.mp other))

/-- What is held is no link. -/
theorem entry?_of_isHeld {tree : FileTree} {files : Ledger String} {path : String} {node : Node}
    (held : IsHeld files path node) (told : String) :
    tree.entry? told node = some (entryOf told node) := by
  rcases held with ⟨text, -, rfl⟩ | ⟨-, rfl⟩ <;> rfl

section Holding

variable {tree : FileTree} {files : Ledger String}
  (normal : ∀ path ∈ files.names, Path.IsNormal path) (holds : tree.Holds files)
include normal holds

/-- The entries of what lies below the directory. -/
theorem entries_placesBelow :
    (tree.placesBelow.map fun place => entryOf (pathOf place.1) place.2).Perm
      (listMapping files) := by
  have entries : (tree.placesBelow.map fun place => entryOf (pathOf place.1) place.2) =
      tree.nodes.entries.map fun entry => entryOf entry.1 entry.2 := by
    rw [placesBelow_eq holds.base fun path => isNormal_of_mem_names normal holds, List.map_map]
    refine List.map_congr_left fun entry member => ?_
    dsimp only [Function.comp_apply]
    rw [Path.pathOf_names (isNormal_of_mem_names normal holds (List.mem_map_of_mem member))]
  rw [entries, listMapping_eq]
  exact (holds.perm_nodes.map _).trans (sortBy_perm _ _).symm

/-- The entries of what a walk comes to. -/
theorem entries_walk (patterns : List String) :
    ((walk patterns tree.placesBelow (depthOf tree.placesBelow) []).filterMap fun place =>
      tree.entry? (pathOf place.1) place.2).Perm
        ((listMapping files).filter fun entry => !isLeftOut patterns entry.path) := by
  have rooted := isRooted_placesBelow normal holds
  have entries : ∀ place ∈ walk patterns tree.placesBelow (depthOf tree.placesBelow) [],
      tree.entry? (pathOf place.1) place.2 = some (entryOf (pathOf place.1) place.2) := by
    intro place member
    obtain ⟨there, -⟩ := isReached_of_mem_walk member
    obtain ⟨path, held, -⟩ := (mem_placesBelow normal holds).mp there
    exact entry?_of_isHeld held _
  rw [List.filterMap_congr entries, List.filterMap_eq_map']
  refine ((walk_perm patterns rooted).map _).trans ?_
  have filtered : (tree.placesBelow.filter fun place => !isLeftOut patterns (pathOf place.1)).map
      (fun place => entryOf (pathOf place.1) place.2) =
        (tree.placesBelow.map fun place => entryOf (pathOf place.1) place.2).filter
          fun entry => !isLeftOut patterns entry.path := by
    rw [List.filter_map]
    rfl
  rw [filtered]
  exact (entries_placesBelow normal holds).filter _

/-- **The listing of a directory that holds texts is that of the texts**, without what is left out
and what is too large. -/
theorem listWithout_eq (patterns : List String) (maxSize : Int) :
    tree.listWithout patterns maxSize = keptEntries files patterns maxSize := by
  have perm : (keptEntries files patterns maxSize).Perm
      (((walk patterns tree.placesBelow (depthOf tree.placesBelow) []).filterMap fun place =>
        tree.entry? (pathOf place.1) place.2).filter (isListed maxSize)) := by
    refine .symm (((entries_walk normal holds patterns).filter _).trans (.of_eq ?_))
    rw [List.filter_filter, keptEntries]
    exact List.filter_congr fun entry _ => Bool.and_comm _ _
  refine (eq_sortBy_of_perm textLe_path_total textLe_path_trans ?_ ?_ perm).symm
  · -- Two nodes at one path would be the same.
    intro entry member other member' forth back
    obtain ⟨node, held, same⟩ := mem_listMapping.mp (List.mem_filter.mp member).1
    obtain ⟨node', held', same'⟩ := mem_listMapping.mp (List.mem_filter.mp member').1
    have path : entry.path = other.path := le_antisymm (textLe_iff.mp forth) (textLe_iff.mp back)
    have found := (holds.nodes _ _).mpr held
    rw [path, (holds.nodes _ _).mpr held', Option.some.injEq] at found
    rw [← same, ← same', path, found]
  · exact (sortBy_pairwise textLe_path_total textLe_path_trans _).filter _

end Holding

/-- What lies above something listed is listed. -/
theorem parents_mem_keptEntries {files : Ledger String}
    (normal : ∀ path ∈ files.names, Path.IsNormal path) {patterns : List String} {maxSize : Int}
    {entry : Entry} (member : entry ∈ keptEntries files patterns maxSize) {parent : String}
    (above : parent ∈ Path.parents entry.path) :
    { path := parent, kind := .directory } ∈ keptEntries files patterns maxSize := by
  obtain ⟨listed, kept⟩ := List.mem_filter.mp member
  obtain ⟨node, held, -⟩ := mem_listMapping.mp listed
  obtain ⟨notLeftOut, -⟩ := Bool.and_eq_true_iff.mp kept
  refine List.mem_filter.mpr ⟨mem_listMapping.mpr ⟨.directory, isHeld_parent normal held above, rfl⟩,
    Bool.and_eq_true_iff.mpr ⟨?_, rfl⟩⟩
  rw [Bool.not_eq_true', isLeftOut, List.any_eq_false] at notLeftOut ⊢
  intro higher upTo
  refine notLeftOut higher (List.mem_append_left _ ?_)
  rcases List.mem_append.mp upTo with further | same
  · exact Path.parents_trans (isNormal_of_isHeld normal held) above further
  · rw [List.mem_singleton.mp same]
    exact above

/-- **The listings of a directory and of the texts that it holds agree.** The directory is listed as
the texts are, without what is left out by some patterns and by those that the directory itself asks
for, and without texts of more bytes than there may be. Whatever lies above something listed is
listed as a directory. -/
theorem list_agrees {tree : FileTree} {files : Ledger String}
    (normal : ∀ path ∈ files.names, Path.IsNormal path) (holds : tree.Holds files)
    (patterns : List String) (maxSize : Int) :
    ∃ entries, tree.list patterns maxSize = .ok entries ∧
      entries = (listMapping files).filter (fun entry =>
        !isLeftOut (patterns ++ ignoredIn files) entry.path &&
          isListed (maxSize * sizeUnit) entry) ∧
      ∀ entry ∈ entries, ∀ parent ∈ Path.parents entry.path,
        { path := parent, kind := .directory } ∈ entries := by
  refine ⟨_, ?_, rfl, fun entry member parent above => ?_⟩
  · rw [list, ignored_of_holds holds, Except.map, listWithout_eq normal holds, keptEntries]
  · exact parents_mem_keptEntries normal member above

/-- A directory that itself asks to leave out another one, and texts that are too large. -/
theorem list_agrees_ignoredDirectory :
    let files : Ledger String := .ofList
      [(".gitignore", "build/"), ("src/build/a.js", ""), ("src/a.md", ""), ("src/b.js", ""),
        ("src/c.js", "c")]
    (∀ path ∈ files.names, Path.IsNormal path) ∧ (ofTexts files).Holds files ∧
      (ofTexts files).list ["*.md"] 0 = .ok [⟨"src", .directory, 0⟩, ⟨"src/b.js", .file, 0⟩] := by
  intro files
  have normal : ∀ path ∈ files.names, Path.IsNormal path := by decide +kernel
  have apart : ∀ path ∈ files.names, path ∉ directoriesAbove files.names := by decide +kernel
  have kept : keptEntries files (["*.md"] ++ ignoredIn files) (0 * sizeUnit) =
      [⟨"src", .directory, 0⟩, ⟨"src/b.js", .file, 0⟩] := by
    decide +kernel
  obtain ⟨entries, listed, same, -⟩ := list_agrees normal (holds_ofTexts apart) ["*.md"] 0
  refine ⟨normal, holds_ofTexts apart, ?_⟩
  rw [listed, same]
  exact congrArg Except.ok kept

end CodeBrief.FileTree
