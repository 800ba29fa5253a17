/-
**Settings are loaded as they are saved.**

To save settings is to open a directory for them and to fill a file in it. A path that leads to a file,
or to nothing in a directory, leads to the bytes with which it has been filled; only what is neither file
nor directory may swallow them. So the settings of a project are loaded from its file as they were saved there.

* `Settings.fill_cases`, `Settings.find?_fill` — what lies under a path that has been filled.
* `Settings.IsWritable` — a project in which nothing keeps the settings from being saved;
  `exists_save` — they are saved. `isWritable_of_place_eq_nil` — one in the directory of the tree.
* `Settings.load_save` — what is saved is loaded.
-/

import CodeBrief.Proofs.Repository.Writing
import CodeBrief.Proofs.Settings.Text

namespace CodeBrief.Settings

open FileTree (pathOf IsPlace IsEntry IsEnd)

/-! ### Filling a file -/

section Fill

variable {tree : FileTree} {path : String} {bytes : List UInt8}

/-- What it takes to fill a file, and what comes of it. -/
theorem fill_cases {after : FileTree} (filled : fill tree path bytes = .ok after) :
    (∃ place, (tree.resolve path = .place place ∨ tree.resolve path = .absent place) ∧
        tree.node? place ≠ some .directory ∧ after = tree.set place (.file bytes)) ∨
      ∃ place kind, tree.resolve path = .place place ∧
        tree.node? place = some (.special kind) ∧ after = tree := by
  unfold fill at filled
  cases way : tree.resolve path with
  | place place =>
    rw [way] at filled
    cases there : tree.node? place with
    | none =>
      simp only [there, Except.ok.injEq] at filled
      exact Or.inl ⟨place, Or.inl rfl, there ▸ nofun, filled.symm⟩
    | some node =>
      cases node with
      | special kind =>
        simp only [there] at filled
        split at filled
        · exact Or.inr ⟨place, kind, rfl, there, (Except.ok.inj filled).symm⟩
        all_goals cases filled
      | directory => simp [there] at filled
      | _ =>
        simp only [there, Except.ok.injEq] at filled
        exact Or.inl ⟨place, Or.inl rfl, by simp [there], filled.symm⟩
  | absent place =>
    rw [way] at filled
    obtain ⟨-, followed⟩ := FileTree.follow_of_resolve way nofun
    refine Or.inl ⟨place, Or.inr rfl, ?_, (Except.ok.inj filled).symm⟩
    rw [FileTree.node?_of_absent followed]
    exact nofun
  | nowhere | blocked | endless | overlong => simp [way] at filled

/-- **Under a path that has been filled lie the bytes**, unless it leads to something that is neither
file nor directory. -/
theorem find?_fill (anchored : tree.IsAnchored) {after : FileTree}
    (filled : fill tree path bytes = .ok after) :
    after.find? path = some (.file bytes) ∨ ∃ kind, after.find? path = some (.special kind) := by
  rcases fill_cases filled with ⟨place, way, noDirectory, rfl⟩ | ⟨place, kind, way, special, rfl⟩
  · exact Or.inl (FileTree.find?_set_of_resolve anchored way noDirectory bytes)
  · rw [FileTree.find?, FileTree.resolve?, way]
    exact Or.inr ⟨kind, special⟩

/-- A place in a directory can be filled if nothing or a file lies there. -/
theorem exists_fill_of_entry (anchored : tree.IsAnchored) {left : Nat} {here : List String}
    {name : String} (entry : IsEntry name) (way : tree.resolve path = tree.follow left here [name])
    (file : ∀ node, tree.node? (tree.enter here name) = some node → ∃ held, node = .file held) :
    ∃ after, fill tree path bytes = .ok after ∧ after.find? path = some (.file bytes) := by
  unfold fill
  cases there : tree.node? (tree.enter here name) with
  | none =>
    rw [FileTree.follow_absent entry there] at way
    rw [way]
    refine ⟨_, rfl, FileTree.find?_set_of_resolve anchored (Or.inr way) ?_ bytes⟩
    rw [there]
    exact nofun
  | some node =>
    obtain ⟨held, rfl⟩ := file node there
    have isEnd : IsEnd (some (.file held)) := ⟨by simp, by simp⟩
    rw [FileTree.follow_last entry isEnd there] at way
    rw [way]
    dsimp only
    rw [there]
    refine ⟨_, rfl, FileTree.find?_set_of_resolve anchored (Or.inl way) ?_ bytes⟩
    rw [there]
    exact isEnd.1

end Fill

/-! ### Saving -/

/-- A project in which settings can be saved: its path leads to its directory and is short enough, and
where the settings belong lies nothing but what has been there for them. -/
structure IsWritable (tree : FileTree) (root : ProjectRoot) : Prop where
  place : IsPlace root.place
  way : tree.resolve (pathOf root.place) = .place root.place
  home : tree.node? root.place = some .directory
  short : (filePath root).utf8ByteSize ≤ FileTree.pathLimit
  directory : tree.node? (tree.enter root.place directoryName) = none ∨
    tree.node? (tree.enter root.place directoryName) = some .directory
  file : ∀ node, tree.node? (tree.enter (tree.enter root.place directoryName) fileName) = some node →
    ∃ bytes, node = .file bytes

theorem isStep_directoryName : IsStep directoryName := ⟨by decide, by decide, by decide⟩

theorem isEntry_directoryName : IsEntry directoryName := ⟨by decide, by decide, by decide⟩

theorem isStep_fileName : IsStep fileName := ⟨by decide, by decide, by decide⟩

theorem isEntry_fileName : IsEntry fileName := ⟨by decide, by decide, by decide⟩

/-- A place in a directory is not that directory. -/
theorem enter_ne (tree : FileTree) (here : List String) (name : String) :
    tree.enter here name ≠ here := by
  unfold FileTree.enter
  split
  · rename_i same
    rw [same.1]
    simp
  · simp

section Save

variable {tree : FileTree} {root : ProjectRoot} {settings : Settings}

/-- The path of the directory for settings is not longer than that of their file. -/
theorem size_directoryPath_le (root : ProjectRoot) :
    (directoryPath root).utf8ByteSize ≤ (filePath root).utf8ByteSize := by
  refine FileTree.size_pathOf_le ⟨[fileName], ?_⟩
  rw [List.append_assoc]
  rfl

namespace IsWritable

variable (writable : IsWritable tree root)
include writable

/-- Where the directory for settings is, their file can be filled. -/
theorem exists_fill (anchored : tree.IsAnchored)
    (directory : tree.node? (tree.enter root.place directoryName) = some .directory)
    (bytes : List UInt8) :
    ∃ after, fill tree (filePath root) bytes = .ok after ∧
      after.find? (filePath root) = some (.file bytes) := by
  obtain ⟨left, onward⟩ := FileTree.exists_resolve_append writable.place writable.way writable.home
  have names : ∀ name ∈ [directoryName, fileName], IsStep name :=
    List.forall_mem_cons.mpr ⟨isStep_directoryName, List.forall_mem_singleton.mpr isStep_fileName⟩
  have path := onward _ names writable.short
  rw [FileTree.follow_into isEntry_directoryName directory] at path
  exact exists_fill_of_entry anchored isEntry_fileName path writable.file

/-- Where the directory for settings belongs, seen from the directory of the project. -/
theorem exists_resolve :
    ∃ left, tree.resolve (directoryPath root) = tree.follow left root.place [directoryName] := by
  obtain ⟨left, onward⟩ := FileTree.exists_resolve_append writable.place writable.way writable.home
  exact ⟨left, onward _ (List.forall_mem_singleton.mpr isStep_directoryName)
    ((size_directoryPath_le root).trans writable.short)⟩

theorem resolve_of_directory
    (directory : tree.node? (tree.enter root.place directoryName) = some .directory) :
    tree.resolve (directoryPath root) = .place (tree.enter root.place directoryName) := by
  obtain ⟨left, path⟩ := writable.exists_resolve
  exact path.trans ((FileTree.follow_into isEntry_directoryName directory).trans FileTree.follow_nil)

theorem resolve_of_missing (missing : tree.node? (tree.enter root.place directoryName) = none) :
    tree.resolve (directoryPath root) = .absent (tree.enter root.place directoryName) := by
  obtain ⟨left, path⟩ := writable.exists_resolve
  exact path.trans (FileTree.follow_absent isEntry_directoryName missing)

/-- Nothing keeps the directory for settings from being made. -/
theorem obstacle?_eq_none : obstacle? tree root = none := by
  have backwards : (root.place ++ [directoryName]).reverse =
      directoryName :: root.place.reverse := by simp
  have forwards : (directoryName :: root.place.reverse).reverse =
      root.place ++ [directoryName] := by simp
  rw [obstacle?, backwards, obstacleFrom?, forwards,
    show pathOf (root.place ++ [directoryName]) = directoryPath root from rfl]
  rcases writable.directory with missing | directory
  · rw [writable.resolve_of_missing missing]
    refine if_neg ?_
    rw [isTaken, List.reverse_reverse, FileTree.resolve?, writable.way]
    show ¬ (tree.node? (tree.enter root.place directoryName)).isSome = true
    rw [missing]
    exact Bool.false_ne_true
  · rw [writable.resolve_of_directory directory]
    exact if_pos directory

/-! ### The directory for settings -/

/-- The directory for settings is put where it belongs if it is missing. -/
theorem write_eq :
    tree.write (directoryPath root) .directory =
      if (tree.resolve? (directoryPath root)).isSome then tree
      else tree.putDirectory (tree.placeFor (root.place ++ [directoryName])) := by
  have isPlace : IsPlace (root.place ++ [directoryName]) :=
    writable.place.append (List.forall_mem_singleton.mpr isStep_directoryName)
  show tree.openWay (FileTree.startOf [] (directoryPath root) ++
    Path.names (directoryPath root)) = _
  rw [show directoryPath root = pathOf (root.place ++ [directoryName]) from rfl,
    FileTree.told_pathOf isPlace]
  refine FileTree.openWay_concat fun above before nonempty => ?_
  exact FileTree.exists_resolve_of_prefix writable.place writable.way before nonempty

theorem write_of_directory
    (directory : tree.node? (tree.enter root.place directoryName) = some .directory) :
    tree.write (directoryPath root) .directory = tree := by
  rw [writable.write_eq, FileTree.resolve?, writable.resolve_of_directory directory]
  rfl

theorem write_of_missing (missing : tree.node? (tree.enter root.place directoryName) = none) :
    tree.write (directoryPath root) .directory =
      tree.set (tree.enter root.place directoryName) .directory := by
  have path := writable.resolve_of_missing missing
  have place : tree.placeFor (root.place ++ [directoryName]) =
      tree.enter root.place directoryName := by
    rw [FileTree.placeFor, show pathOf (root.place ++ [directoryName]) = directoryPath root from rfl,
      path]
  rw [writable.write_eq, FileTree.resolve?, path, place, FileTree.putDirectory, missing]
  rfl

variable (anchored : tree.IsAnchored)
include anchored

/-- With the directory for settings, a project is as it was. -/
theorem set_directory (missing : tree.node? (tree.enter root.place directoryName) = none) :
    IsWritable (tree.set (tree.enter root.place directoryName) .directory) root := by
  have isHere : IsPlace (tree.enter root.place directoryName) :=
    FileTree.isPlace_enter writable.place isStep_directoryName
  have isEnd : IsEnd (tree.node? (tree.enter root.place directoryName)) := by
    rw [missing]
    exact ⟨nofun, nofun⟩
  have kept : ∀ {other}, IsPlace other → other ≠ tree.enter root.place directoryName →
      (tree.set (tree.enter root.place directoryName) .directory).node? other = tree.node? other :=
    fun isOther different => FileTree.node?_set_of_ne isHere isOther isEnd.1 different
  have home := (kept writable.place (enter_ne _ _ _).symm).trans writable.home
  refine ⟨writable.place, ?_, home, writable.short,
    Or.inr (FileTree.node?_set_self isHere isEnd.1), fun node lies => writable.file node ?_⟩
  · exact FileTree.resolve_set anchored (Or.inl writable.way) isHere isEnd
      (show ∀ target, Node.directory ≠ .link target from nofun) home
  · exact (kept (FileTree.isPlace_enter isHere isStep_fileName) (enter_ne _ _ _)).symm.trans lies

/-- **Saved settings are in their file**, where nothing keeps them from it. -/
theorem exists_save (settings : Settings) :
    ∃ after, save tree root settings = .ok after ∧
      after.find? (filePath root) = some (.file (text settings).toUTF8.toList) := by
  unfold save
  rw [writable.obstacle?_eq_none]
  dsimp only
  rcases writable.directory with missing | directory
  · have put : (tree.set (tree.enter root.place directoryName) .directory).node?
        (tree.enter root.place directoryName) = some .directory := by
      refine FileTree.node?_set_self (FileTree.isPlace_enter writable.place isStep_directoryName) ?_
      rw [missing]
      exact nofun
    have stillAnchored := anchored.write_directory (directoryPath root)
    rw [writable.write_of_missing missing] at stillAnchored ⊢
    exact (writable.set_directory anchored missing).exists_fill stillAnchored put _
  · rw [writable.write_of_directory directory]
    exact writable.exists_fill anchored directory _

end IsWritable

theorem fill_of_save {after : FileTree} (saved : save tree root settings = .ok after) :
    fill (tree.write (directoryPath root) .directory) (filePath root)
      (text settings).toUTF8.toList = .ok after := by
  unfold save at saved
  split at saved
  · cases saved
  · exact saved

/-! ### Loading -/

variable {room : Nat}

/-- The settings of a project are those that the bytes of its file spell. -/
theorem load_of_file {tree : FileTree} {bytes : List UInt8}
    (found : tree.find? (filePath root) = some (.file bytes)) :
    load room tree root = ofBytes room bytes := by
  unfold load
  rw [found]
  cases way : tree.resolve (filePath root) with
  | overlong => exact absurd way (FileTree.resolve_ne_overlong found)
  | _ => rfl

theorem load_of_find? {after : FileTree} (valid : settings.Valid) (readable : settings.IsReadable)
    (roomy : 4 ≤ room)
    (found : after.find? (filePath root) = some (.file (text settings).toUTF8.toList)) :
    load room after root = .ok settings := by
  rw [load_of_file found]
  exact ofBytes_text valid readable roomy

/-- **Settings are loaded as they are saved.** Whenever valid settings have been saved, and not into
something that is neither file nor directory, they are what is loaded, if there is room for four
values within each other; and in a project in which nothing is in the way they are saved. -/
theorem load_save (anchored : tree.IsAnchored) (root : ProjectRoot) (valid : settings.Valid)
    (readable : settings.IsReadable) (roomy : 4 ≤ room) :
    (∀ after, save tree root settings = .ok after →
        (∀ kind, after.find? (filePath root) ≠ some (.special kind)) →
        load room after root = .ok settings) ∧
      (IsWritable tree root →
        ∃ after, save tree root settings = .ok after ∧ load room after root = .ok settings) := by
  constructor
  · intro after saved noSpecial
    have filled := find?_fill (anchored.write_directory (directoryPath root)) (fill_of_save saved)
    exact load_of_find? valid readable roomy
      (filled.resolve_right fun ⟨kind, special⟩ => noSpecial kind special)
  · intro writable
    obtain ⟨after, saved, found⟩ := writable.exists_save anchored settings
    exact ⟨after, saved, load_of_find? valid readable roomy found⟩

end Save

/-- In the directory in which paths begin, settings can be saved unless something else lies there. -/
theorem isWritable_of_place_eq_nil {tree : FileTree} (base : tree.base = []) {root : ProjectRoot}
    (own : root.place = [])
    (directory : tree.node? [directoryName] = none ∨ tree.node? [directoryName] = some .directory)
    (file : ∀ node, tree.node? [directoryName, fileName] = some node → ∃ bytes, node = .file bytes) :
    IsWritable tree root := by
  have entered : ∀ here, here ≠ [FileTree.upward] → ∀ name, tree.enter here name = here ++ [name] :=
    fun here different name => if_neg fun same => different same.1
  have here : tree.enter [] directoryName = [directoryName] := entered [] (by decide) directoryName
  have way : tree.resolve (pathOf []) = .place [] := by
    refine (@FileTree.resolve_pathOf tree [] [] (Or.inl rfl) nofun (by decide)).trans ?_
    rw [FileTree.follow_nil, FileTree.beginning, if_pos rfl, base]
  constructor
  case place => exact own ▸ ⟨[], [], Or.inl rfl, rfl, nofun⟩
  case way => rw [own, way]
  case home =>
    rw [own]
    rfl
  case short =>
    rw [filePath, own]
    decide
  case directory =>
    rw [own, here]
    exact directory
  case file =>
    rw [own, here, entered _ (by decide)]
    exact file

theorem isReadable_default : ({} : Settings).IsReadable where
  tokens := by decide
  reserve := by
    have share : ({} : Settings).brief.metadataReserve = .finite false 7205759403792794 (-55) := by
      decide +kernel
    rw [share]
    exact ⟨by decide, by decide, by decide, Or.inl (by decide)⟩
  size := by decide
  concurrent := by decide

/-- So the settings that a project begins with are loaded once they have been saved. -/
theorem load_save_initial :
    let root : ProjectRoot := { name := "a\r\"𝄞", path := "/a" }
    ∃ after, save {} root (initial root.name root.path) = .ok after ∧
      load Json.usualRoom after root = .ok (initial root.name root.path) := by
  intro root
  have anchored : ({} : FileTree).IsAnchored := ⟨FileTree.isOpen_nil _, by decide⟩
  have valid : (initial root.name root.path).Valid :=
    ⟨Settings.valid_default.brief, Settings.valid_default.memory⟩
  have readable : (initial root.name root.path).IsReadable :=
    ⟨isReadable_default.tokens, isReadable_default.reserve, isReadable_default.size,
      isReadable_default.concurrent⟩
  have nothing : ({} : FileTree).node? [directoryName] = none ∧
      ({} : FileTree).node? [directoryName, fileName] = none := by decide
  refine (load_save anchored root valid readable (by decide)).2
    (isWritable_of_place_eq_nil rfl rfl (Or.inl nothing.1) fun node lies => ?_)
  rw [nothing.2] at lies
  cases lies

end CodeBrief.Settings
