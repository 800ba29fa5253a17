/-
**Directories that are opened.**

To open the way to a place is to put a directory wherever the way leads nowhere. Directories that are
there stay, and if only the last of them is missing, only that one is put.

* `resolve_pathOf` — the path of a place leads where its steps lead; `exists_resolve_append` — and on
  from there.
* `IsAnchored.write_directory` — a tree begins where it began, whatever directories are opened.
* `openWay_concat` — the way to a place in a place that is there.
* `find?_set_of_resolve` — a file put where a path leads is found under that path.
-/

import CodeBrief.Proofs.Repository.Ways

namespace CodeBrief.FileTree

/-! ### Paths of places -/

/-- The path of a place is not longer than that of a place below it. -/
theorem size_pathOf_le {above place : List String} (before : above <+: place) :
    (pathOf above).utf8ByteSize ≤ (pathOf place).utf8ByteSize := by
  obtain ⟨more, rfl⟩ := before
  by_cases nothing : above = []
  · rw [nothing]
    exact Nat.zero_le _
  by_cases nothing' : more = []
  · rw [nothing', List.append_nil]
  · rw [pathOf, pathOf, String.intercalate_append_of_ne_nil nothing nothing']
    simp only [String.utf8ByteSize_append]
    omega

section Resolve

variable {tree : FileTree}

/-- Where paths begin that are told from a start. -/
def beginning (tree : FileTree) (start : List String) : List String :=
  if start = [] then tree.base else start

/-- **The path of a place leads where its steps lead.** -/
theorem resolve_pathOf {start steps : List String} (isStart : IsStart start)
    (are : ∀ step ∈ steps, IsStep step)
    (short : (pathOf (start ++ steps)).utf8ByteSize ≤ pathLimit) :
    tree.resolve (pathOf (start ++ steps)) =
      tree.follow linkLimit (tree.beginning start) steps := by
  rw [resolve, if_neg (not_lt.mpr short), startOf_pathOf_place isStart are,
    names_pathOf_place isStart are]
  rfl

/-- A path that leads somewhere is short, and it is followed. -/
theorem follow_of_resolve {path : String} {way : Way} (found : tree.resolve path = way)
    (notLong : way ≠ .overlong) :
    path.utf8ByteSize ≤ pathLimit ∧
      tree.follow linkLimit (startOf tree.base path) (Path.names path) = way := by
  unfold resolve at found
  split at found
  · exact absurd found.symm notLong
  · rename_i short
    exact ⟨not_lt.mp short, found⟩

theorem leadsTo_of_resolve {path : String} {there : List String}
    (found : tree.resolve path = .place there ∨ tree.resolve path = .absent there) :
    path.utf8ByteSize ≤ pathLimit ∧
      LeadsTo tree there linkLimit (startOf tree.base path) (Path.names path) := by
  rcases found with found | found
  · exact (follow_of_resolve found nofun).imp_right fun way => leadsTo_of_follow (Or.inl way)
  · exact (follow_of_resolve found nofun).imp_right fun way => leadsTo_of_follow (Or.inr way)

/-- A path that leads to a directory leads on from there. -/
theorem exists_resolve_append {place there : List String} (isPlace : IsPlace place)
    (way : tree.resolve (pathOf place) = .place there) (directory : tree.node? there = some .directory) :
    ∃ left, ∀ names, (∀ name ∈ names, IsStep name) →
      (pathOf (place ++ names)).utf8ByteSize ≤ pathLimit →
      tree.resolve (pathOf (place ++ names)) = tree.follow left there names := by
  obtain ⟨start, steps, isStart, rfl, are⟩ := isPlace
  obtain ⟨short, -⟩ := follow_of_resolve way nofun
  rw [resolve_pathOf isStart are short] at way
  obtain ⟨left, onward⟩ := (leadsTo_of_follow (Or.inl way)).append directory
  refine ⟨left, fun names areNames short => ?_⟩
  rw [List.append_assoc] at short ⊢
  rw [resolve_pathOf isStart ?_ short, onward]
  intro step member
  rcases List.mem_append.mp member with inSteps | inNames
  · exact are step inSteps
  · exact areNames step inNames

/-- The directories above a place to which its path leads are found as well. -/
theorem exists_resolve_of_prefix {place there : List String} (isPlace : IsPlace place)
    (way : tree.resolve (pathOf place) = .place there) {above : List String} (before : above <+: place)
    (nonempty : above ≠ []) : ∃ found, tree.resolve (pathOf above) = .place found := by
  obtain ⟨more, same⟩ := before
  by_cases nothing : more = []
  · rw [nothing, List.append_nil] at same
    exact ⟨there, same ▸ way⟩
  obtain ⟨start, steps, isStart, rfl, are⟩ := isPlace
  obtain ⟨short, -⟩ := follow_of_resolve way nofun
  rw [resolve_pathOf isStart are short] at way
  have leads := leadsTo_of_follow (Or.inl way)
  have shorter := (size_pathOf_le ⟨more, same⟩).trans short
  obtain ⟨names, rfl, parts⟩ : ∃ names, above = start ++ names ∧ names ++ more = steps := by
    rcases isStart with rfl | rfl
    · exact ⟨above, rfl, same⟩
    · obtain ⟨first, names, rfl⟩ := List.exists_cons_of_ne_nil nonempty
      obtain ⟨rfl, parts⟩ := List.cons.inj same
      exact ⟨names, rfl, parts⟩
  have areNames : ∀ step ∈ names, IsStep step := fun step member =>
    are step (parts ▸ List.mem_append_left more member)
  rw [resolve_pathOf isStart areNames shorter]
  exact leads.follow_prefix parts.symm nothing

end Resolve

/-! ### Opening directories -/

section Opening

variable {tree : FileTree}

/-- A directory that is there stays if another one is put. -/
theorem node?_putDirectory {place other : List String}
    (directory : tree.node? other = some .directory) :
    (tree.putDirectory place).node? other = some .directory := by
  unfold putDirectory
  split
  · exact directory
  · unfold node? at directory ⊢
    split at directory
    · rename_i isUp
      rw [if_pos isUp]
    · rename_i notUp
      rw [if_neg notUp, set, Ledger.get?_put]
      split
      · rfl
      · exact directory

/-- A tree begins where it began, whatever directory is put. -/
theorem IsAnchored.putDirectory (anchored : tree.IsAnchored) (place : List String) :
    (tree.putDirectory place).IsAnchored := by
  have base : (tree.putDirectory place).base = tree.base := by
    unfold FileTree.putDirectory
    split <;> rfl
  refine ⟨?_, node?_putDirectory anchored.root⟩
  rw [base]
  exact ⟨anchored.base.isPlace, fun above before =>
    node?_putDirectory (anchored.base.inside above before)⟩

theorem IsAnchored.openWay (anchored : tree.IsAnchored) (names : List String) :
    (tree.openWay names).IsAnchored := by
  unfold FileTree.openWay
  refine List.foldlRecOn _ _ anchored fun tree anchored names _ => ?_
  split
  · exact anchored
  · exact anchored.putDirectory _

/-- **A tree begins where it began**, whatever directories are opened in it. -/
theorem IsAnchored.write_directory (anchored : tree.IsAnchored) (path : String) :
    (tree.write path .directory).IsAnchored :=
  anchored.openWay _

/-- The way to a place in a place that is there. -/
theorem openWay_concat {names : List String} {name : String}
    (there : ∀ above, above <+: names → above ≠ [] →
      ∃ place, tree.resolve (pathOf above) = .place place) :
    tree.openWay (names ++ [name]) =
      if (tree.resolve? (pathOf (names ++ [name]))).isSome then tree
      else tree.putDirectory (tree.placeFor (names ++ [name])) := by
  unfold openWay
  rw [List.foldl_append]
  have earlier : ∀ above ∈ (Path.initials (names ++ [name])).drop 1,
      above = [] ∨ (tree.resolve? (pathOf above)).isSome = true := by
    intro above member
    obtain ⟨before, proper⟩ := Path.mem_initials.mp (List.mem_of_mem_drop member)
    by_cases nothing : above = []
    · exact Or.inl nothing
    obtain ⟨place, found⟩ :=
      there above ((List.prefix_concat_iff.mp before).resolve_left proper) nothing
    rw [resolve?, found]
    exact Or.inr rfl
  rw [show List.foldl _ tree ((Path.initials (names ++ [name])).drop 1) = tree from ?_]
  · simp
  · refine List.foldlRecOn (motive := (· = tree)) _ _ rfl fun other same above member => ?_
    subst same
    rcases earlier above member with nothing | found
    · simp [nothing]
    · simp [found]

end Opening

/-! ### Files -/

section Set

variable {tree : FileTree} (anchored : tree.IsAnchored) {path : String} {there : List String}
  (found : tree.resolve path = .place there ∨ tree.resolve path = .absent there)
include anchored found

/-- A path leads where it led if something is put that is not passed through. -/
theorem resolve_set {place : List String} {node held : Node} (isPlace : IsPlace place)
    (free : IsEnd (tree.node? place)) (noLink : ∀ target, node ≠ .link target)
    (lies : (tree.set place node).node? there = some held) :
    (tree.set place node).resolve path = .place there := by
  obtain ⟨short, leads⟩ := leadsTo_of_resolve found
  have isOpen := anchored.isOpen_startOf anchored.base path
  have stillLeads := leads.set anchored isOpen (areSegments_names path) isPlace free noLink
  rw [resolve, if_neg (not_lt.mpr short)]
  exact stillLeads.follow_eq lies

/-- **A file put where a path leads is found under that path.** -/
theorem find?_set_of_resolve (free : tree.node? there ≠ some .directory) (bytes : List UInt8) :
    (tree.set there (.file bytes)).find? path = some (.file bytes) := by
  obtain ⟨isPlace, noLink⟩ := (leadsTo_of_resolve found).2.arrives anchored
    (anchored.isOpen_startOf anchored.base path) (areSegments_names path)
  have held : (tree.set there (.file bytes)).node? there = some (.file bytes) :=
    node?_set_self isPlace free
  have way := resolve_set anchored found isPlace ⟨free, noLink⟩
    (show ∀ target, Node.file bytes ≠ .link target from nofun) held
  rw [find?, resolve?, way]
  exact held

end Set

end CodeBrief.FileTree
