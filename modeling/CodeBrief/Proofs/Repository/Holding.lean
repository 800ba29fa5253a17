/-
**Directories that hold texts.**

Texts under normal paths can be put into a directory: each as a file with its bytes, in the
directories above it.

* `Holds` — what it means for a tree to be a directory that holds some texts and nothing else;
  `holds_ofTexts` says that there is one.
* `isRooted_placesBelow` — below it lies a tree.
* `ignored_of_holds` — what it asks to leave out is read from the text that says so.
-/

import CodeBrief.Proofs.FirstOccurrences
import CodeBrief.Proofs.Ledger
import CodeBrief.Proofs.Repository.Ignoring
import CodeBrief.Proofs.Repository.Walk

namespace CodeBrief.FileTree

/-! ### Directories that hold texts -/

/-- What lies at a path if some texts, and nothing else, are put into a directory: the bytes of the
text, or a directory above some text. -/
def IsHeld (files : Ledger String) (path : String) (node : Node) : Prop :=
  (∃ text, files.get? path = some text ∧ node = .file text.toUTF8.toList) ∨
    (path ∈ directoriesAbove files.names ∧ node = .directory)

/-- The tree is a directory that holds exactly some texts. -/
structure Holds (tree : FileTree) (files : Ledger String) : Prop where
  /-- Paths begin in the directory itself. -/
  base : tree.base = []
  /-- The texts and the directories above them are what lies there. -/
  nodes : ∀ path node, tree.nodes.get? path = some node ↔ IsHeld files path node

theorem mem_directoriesAbove {paths : List String} {above : String} :
    above ∈ directoriesAbove paths ↔ ∃ path ∈ paths, above ∈ Path.parents path := by
  simp [directoriesAbove, List.mem_eraseDups]

/-- The directories above some texts, and the texts, each with its path. -/
def heldNodes (files : Ledger String) : List (String × Node) :=
  (directoriesAbove files.names).map (fun path => (path, .directory)) ++
    files.entries.map fun (path, text) => (path, .file text.toUTF8.toList)

theorem mem_heldNodes {files : Ledger String} {path : String} {node : Node} :
    (path, node) ∈ heldNodes files ↔ IsHeld files path node := by
  rw [heldNodes, List.mem_append, List.mem_map, List.mem_map, IsHeld, or_comm]
  refine or_congr ⟨?_, ?_⟩ ⟨?_, ?_⟩
  · rintro ⟨⟨path, text⟩, member, same⟩
    obtain ⟨rfl, rfl⟩ := Prod.mk.inj same
    exact ⟨text, Ledger.get?_eq_some_iff.mpr member, rfl⟩
  · rintro ⟨text, found, rfl⟩
    exact ⟨(path, text), Ledger.get?_eq_some_iff.mp found, rfl⟩
  · rintro ⟨path, above, same⟩
    obtain ⟨rfl, rfl⟩ := Prod.mk.inj same
    exact ⟨above, rfl⟩
  · rintro ⟨above, rfl⟩
    exact ⟨path, above, rfl⟩

theorem distinct_heldNodes {files : Ledger String}
    (apart : ∀ path ∈ files.names, path ∉ directoriesAbove files.names) :
    ((heldNodes files).map Prod.fst).Nodup := by
  have paths : (heldNodes files).map Prod.fst = directoriesAbove files.names ++ files.names := by
    rw [heldNodes, List.map_append, List.map_map, List.map_map]
    exact congrArg (· ++ _) (List.map_id _)
  rw [paths]
  refine List.nodup_append.mpr ⟨nodup_eraseDups _, files.distinct, ?_⟩
  rintro directory above file member rfl
  exact apart directory member above

/-- A directory into which some texts are put. -/
def ofTexts (files : Ledger String) : FileTree where
  nodes := .ofList (heldNodes files)

/-- **Texts can be put into a directory** if none of their paths is that of a directory above
another. -/
theorem holds_ofTexts {files : Ledger String}
    (apart : ∀ path ∈ files.names, path ∉ directoriesAbove files.names) :
    (ofTexts files).Holds files := by
  refine ⟨rfl, fun path node => ?_⟩
  rw [Ledger.get?_eq_some_iff, ofTexts, Ledger.entries_ofList (distinct_heldNodes apart)]
  exact mem_heldNodes

/-- No text lies where a directory above another one lies. -/
theorem Holds.apart {tree : FileTree} {files : Ledger String} (holds : tree.Holds files) :
    ∀ path ∈ files.names, path ∉ directoriesAbove files.names := by
  intro path member above
  obtain ⟨text, found⟩ := Ledger.exists_get?_of_mem member
  have file := (holds.nodes path _).mpr (.inl ⟨text, found, rfl⟩)
  have directory := (holds.nodes path _).mpr (.inr ⟨above, rfl⟩)
  rw [file] at directory
  simp at directory

/-- What a directory holds, in some order. -/
theorem Holds.perm_nodes {tree : FileTree} {files : Ledger String} (holds : tree.Holds files) :
    tree.nodes.entries.Perm (heldNodes files) := by
  refine (List.perm_ext_iff_of_nodup (tree.nodes.distinct.of_map _)
    ((distinct_heldNodes holds.apart).of_map _)).mpr fun entry => ?_
  rw [← Ledger.get?_eq_some_iff, holds.nodes, ← mem_heldNodes]

section Held

variable {files : Ledger String} (normal : ∀ path ∈ files.names, Path.IsNormal path)
include normal

theorem isNormal_of_isHeld {path : String} {node : Node} (held : IsHeld files path node) :
    Path.IsNormal path := by
  rcases held with ⟨text, found, -⟩ | ⟨above, -⟩
  · exact normal path (Ledger.mem_names_of_get? found)
  · obtain ⟨file, member, parent⟩ := mem_directoriesAbove.mp above
    obtain ⟨names, before, -, nonempty, rfl⟩ := (Path.mem_parents (normal file member)).mp parent
    exact Path.isNormal_pathOf nonempty fun name within =>
      Path.isName_of_mem_names (normal file member) (before.subset within)

/-- What lies above something held is a directory that is held. -/
theorem isHeld_parent {path parent : String} {node : Node} (held : IsHeld files path node)
    (above : parent ∈ Path.parents path) : IsHeld files parent .directory := by
  refine .inr ⟨mem_directoriesAbove.mpr ?_, rfl⟩
  rcases held with ⟨text, found, -⟩ | ⟨directory, -⟩
  · exact ⟨path, Ledger.mem_names_of_get? found, above⟩
  · obtain ⟨file, member, between⟩ := mem_directoriesAbove.mp directory
    exact ⟨file, member, Path.parents_trans (normal file member) between above⟩

end Held

/-! ### What lies below the directory -/

theorem namesBelow?_of_isName {tree : FileTree} (base : tree.base = []) {names : List String}
    (nonempty : names ≠ []) (are : ∀ name ∈ names, IsName name) :
    tree.namesBelow? names = some names := by
  obtain ⟨first, rest, rfl⟩ := List.exists_cons_of_ne_nil nonempty
  have isName := are first List.mem_cons_self
  have noRoot : first ≠ SystemPlaces.root := by
    rintro rfl
    exact isName.noSlash (by decide)
  simp [namesBelow?, base, isOfSystem, noRoot, isName.notUpward]

/-- Normal paths are told by their names. -/
theorem placesBelow_eq {tree : FileTree} (base : tree.base = [])
    (normal : ∀ path ∈ tree.nodes.names, Path.IsNormal path) :
    tree.placesBelow = tree.nodes.entries.map fun entry => (Path.names entry.1, entry.2) := by
  have own : tree.namesBelow? [] = none := by simp [namesBelow?, base]
  simp only [placesBelow, own, Option.isSome_none, Bool.false_eq_true, if_false, List.nil_append]
  rw [← List.filterMap_eq_map]
  refine List.filterMap_congr fun entry member => ?_
  have path : Path.IsNormal entry.1 := normal entry.1 (List.mem_map_of_mem member)
  have nonempty : entry.1.isEmpty = false := by
    rw [String.isEmpty_eq_false_iff]
    exact fun empty => Path.names_ne_nil path (by rw [empty]; decide)
  have start : startOf [] entry.1 = [] := by rw [startOf, Path.root_of_isNormal path]; rfl
  simp only [nonempty, Bool.false_eq_true, if_false, start, List.nil_append]
  rw [namesBelow?_of_isName base (Path.names_ne_nil path) fun name within =>
    Path.isName_of_mem_names path within]
  rfl

section Holding

variable {tree : FileTree} {files : Ledger String}
  (normal : ∀ path ∈ files.names, Path.IsNormal path) (holds : tree.Holds files)
include normal holds

theorem isNormal_of_mem_names {path : String} (member : path ∈ tree.nodes.names) :
    Path.IsNormal path := by
  obtain ⟨node, found⟩ := Ledger.exists_get?_of_mem member
  exact isNormal_of_isHeld normal ((holds.nodes path node).mp found)

theorem mem_placesBelow {place : Place} :
    place ∈ tree.placesBelow ↔
      ∃ path, IsHeld files path place.2 ∧ Path.names path = place.1 := by
  rw [placesBelow_eq holds.base fun path => isNormal_of_mem_names normal holds, List.mem_map]
  constructor
  · rintro ⟨⟨path, node⟩, member, rfl⟩
    exact ⟨path, (holds.nodes path node).mp (Ledger.get?_eq_some_iff.mpr member), rfl⟩
  · rintro ⟨path, held, names⟩
    exact ⟨(path, place.2), Ledger.get?_eq_some_iff.mp ((holds.nodes path place.2).mpr held),
      Prod.ext names rfl⟩

/-- **What lies below a directory that holds texts is a tree.** -/
theorem isRooted_placesBelow : IsRooted tree.placesBelow where
  distinct := by
    rw [placesBelow_eq holds.base fun path => isNormal_of_mem_names normal holds]
    have entries : tree.nodes.entries.Nodup := tree.nodes.distinct.of_map _
    refine entries.map_on fun first member second member' same => ?_
    have left := isNormal_of_mem_names normal holds (List.mem_map_of_mem member)
    have right := isNormal_of_mem_names normal holds (List.mem_map_of_mem member')
    obtain ⟨names, node⟩ := Prod.mk.inj same
    refine Prod.ext ?_ node
    rw [← Path.pathOf_names left, names, Path.pathOf_names right]
  named place member := by
    obtain ⟨path, held, names⟩ := (mem_placesBelow normal holds).mp member
    have isNormal := isNormal_of_isHeld normal held
    rw [← names]
    exact ⟨Path.names_ne_nil isNormal, fun name => Path.isName_of_mem_names isNormal⟩
  inside place member above before proper nonempty := by
    obtain ⟨path, held, names⟩ := (mem_placesBelow normal holds).mp member
    have isNormal := isNormal_of_isHeld normal held
    rw [← names] at before proper
    have are : ∀ name ∈ above, IsName name := fun name within =>
      Path.isName_of_mem_names isNormal (before.subset within)
    exact (mem_placesBelow normal holds).mpr ⟨pathOf above,
      isHeld_parent normal held ((Path.mem_parents isNormal).mpr ⟨above, before, proper, nonempty, rfl⟩),
      Path.names_pathOf are⟩

end Holding

/-! ### What the directory itself asks to leave out -/

/-- The patterns of the paths that some texts themselves ask to leave out. -/
def ignoredIn (files : Ledger String) : List String :=
  match files.get? ignoreFile with
  | some text => ignorePatterns (Text.unifyBreaks text.toList)
  | none => []

theorem Holds.noLink {tree : FileTree} {files : Ledger String} (holds : tree.Holds files)
    (target : String) : tree.nodes.get? ignoreFile ≠ some (.link target) := by
  intro found
  rcases (holds.nodes _ _).mp found with ⟨_, -, link⟩ | ⟨-, link⟩ <;> cases link

/-- What tells what is left out has an end. -/
theorem Holds.ends {tree : FileTree} {files : Ledger String} (holds : tree.Holds files) :
    tree.Ends ignoreFile := by
  intro kind lies
  rw [find?_ignoreFile holds.base holds.noLink] at lies
  rcases (holds.nodes _ _).mp lies with ⟨_, -, special⟩ | ⟨-, special⟩ <;> cases special

theorem bytes?_ignoreFile {tree : FileTree} {files : Ledger String} (holds : tree.Holds files) :
    tree.bytes? ignoreFile = (files.get? ignoreFile).map fun text => text.toUTF8.toList := by
  rw [bytes?, find?_ignoreFile holds.base holds.noLink]
  cases text : files.get? ignoreFile with
  | some text' =>
    rw [(holds.nodes _ _).mpr (.inl ⟨text', text, rfl⟩)]
    rfl
  | none =>
    cases there : tree.nodes.get? ignoreFile with
    | none => rfl
    | some node =>
      rcases (holds.nodes _ _).mp there with ⟨text', found, -⟩ | ⟨-, rfl⟩
      · rw [text] at found
        cases found
      · rfl

theorem ignored_of_holds {tree : FileTree} {files : Ledger String} (holds : tree.Holds files) :
    tree.ignored = .ok (ignoredIn files) := by
  have bytes := bytes?_ignoreFile holds
  unfold ignoredIn
  cases text : files.get? ignoreFile with
  | none =>
    rw [text] at bytes
    exact ignored_of_none (resolve_ignoreFile_ne_overlong holds.base holds.noLink) holds.ends bytes
  | some text' =>
    rw [text] at bytes
    exact ignored_of_text bytes

end CodeBrief.FileTree
