/-
**Indexing is local to each file.**

The functions of all files are entered one after another into one ledger, where a later record takes
the place of an earlier one with the same key, and so are the classes. Still no file touches what is
held of another one, because a key tells its file (`Index.keyPath_of_mem_functionsOf`):

* `filter_gather` — to drop the records of some files is not to look at those files;
* `restrict_build` — what an index holds of some files is their index;
* `build_isLocal` — so each file has the entries that it has alone, and every record stands under
  the key that is made of its path and its name.
-/

import CodeBrief.Proofs.Index.Keys

namespace CodeBrief.Index

/-! ### Gathering from some files -/

/-- The elements that are kept come from the items that they belong to. -/
theorem filter_flatMap_of_own {ι β : Type} {items : List ι} {elementsOf : ι → List β}
    {own : ι → Bool} {keep : β → Bool}
    (same : ∀ item, ∀ element ∈ elementsOf item, keep element = own item) :
    (items.flatMap elementsOf).filter keep = (items.filter own).flatMap elementsOf := by
  induction items with
  | nil => rfl
  | cons item rest ih =>
    rw [List.flatMap_cons, List.filter_append, ih]
    by_cases isOwn : own item = true
    · have all : (elementsOf item).filter keep = elementsOf item :=
        List.filter_eq_self.mpr fun element member => (same item element member).trans isOwn
      rw [all, List.filter_cons_of_pos isOwn, List.flatMap_cons]
    · have none : (elementsOf item).filter keep = [] :=
        List.filter_eq_nil_iff.mpr fun element member kept =>
          isOwn ((same item element member).symm.trans kept)
      rw [none, List.filter_cons_of_neg isOwn, List.nil_append]

theorem gather_eq {β : Type} (recordsOf : String → String → List β) (keyOf : β → String)
    (files : Ledger String) :
    gather recordsOf keyOf files = .ofList (files.entries.flatMap fun file =>
      (recordsOf file.1 file.2).map fun record => (keyOf record, record)) := rfl

/-- **To drop the records of some files is not to look at those files**, if every key tells the file
that it is from. -/
theorem filter_gather {β : Type} {recordsOf : String → String → List β} {keyOf pathOf : β → String}
    (told : ∀ path content, ∀ record ∈ recordsOf path content,
      keyPath (keyOf record) = path ∧ pathOf record = path)
    (keep : String → Bool) (files : Ledger String) :
    (gather recordsOf keyOf files).filter (fun _ record => keep (pathOf record)) =
      gather recordsOf keyOf (files.filter fun path _ => keep path) := by
  -- The path of a record can be read off its key, so that the pairs are dropped before they are
  -- entered.
  have byKey : (gather recordsOf keyOf files).filter (fun _ record => keep (pathOf record)) =
      (gather recordsOf keyOf files).filter fun key _ => keep (keyPath key) := by
    refine Ledger.filter_congr fun key record held => ?_
    obtain ⟨rfl, path, content, -, isFound⟩ := mem_of_get?_gather held
    obtain ⟨fromKey, fromRecord⟩ := told path content record isFound
    rw [fromKey, fromRecord]
  have pairs : (files.entries.flatMap fun file =>
        (recordsOf file.1 file.2).map fun record => (keyOf record, record)).filter
          (fun pair => keep (keyPath pair.1)) =
      (files.entries.filter fun file => keep file.1).flatMap fun file =>
        (recordsOf file.1 file.2).map fun record => (keyOf record, record) := by
    refine filter_flatMap_of_own fun file pair member => ?_
    obtain ⟨record, isFound, rfl⟩ := List.mem_map.mp member
    exact congrArg keep (told file.1 file.2 record isFound).1
  rw [byKey, gather_eq, gather_eq, Ledger.filter_ofList (fun key => keep (keyPath key)), pairs]
  rfl

variable {path path' content content' : String}

theorem keyPath_of_mem_functionsOf {record : FunctionRecord}
    (isFound : record ∈ functionsOf path content) :
    keyPath record.key = path ∧ record.path = path := by
  obtain ⟨own, isWord⟩ := of_mem_functionsOf isFound
  refine ⟨?_, own⟩
  rw [← own]
  exact keyPath_recordKey record.path isWord

theorem keyPath_of_mem_classesOf {record : ClassRecord}
    (isFound : record ∈ classesOf path content) :
    keyPath record.key = path ∧ record.path = path := by
  obtain ⟨own, isWord⟩ := of_mem_classesOf isFound
  refine ⟨?_, own⟩
  rw [← own]
  exact keyPath_recordKey record.path isWord

/-! ### The index of some files -/

/-- What an index holds of the files whose paths satisfy `keep`. -/
def restrict (keep : String → Bool) (index : Index) : Index where
  files := index.files.filter fun path _ => keep path
  functions := index.functions.filter fun _ record => keep record.path
  classes := index.classes.filter fun _ record => keep record.path
  comments := index.comments.filter fun path _ => keep path
  tests := index.tests.filter fun path _ => keep path

/-- **What an index holds of some files is their index.** -/
theorem restrict_build (keep : String → Bool) (files : Ledger String) :
    (build files).restrict keep = build (files.filter fun path _ => keep path) := by
  have functions : (gather functionsOf FunctionRecord.key files).filter
        (fun _ record => keep record.path) =
      gather functionsOf FunctionRecord.key (files.filter fun path _ => keep path) :=
    filter_gather (fun _ _ _ isFound => keyPath_of_mem_functionsOf isFound) keep files
  have classes : (gather classesOf ClassRecord.key files).filter
        (fun _ record => keep record.path) =
      gather classesOf ClassRecord.key (files.filter fun path _ => keep path) :=
    filter_gather (fun _ _ _ isFound => keyPath_of_mem_classesOf isFound) keep files
  unfold restrict
  rw [functions_build, classes_build, functions, classes]
  unfold build
  dsimp only
  rw [Ledger.filter_comm, Ledger.filter_mapValues, Ledger.filter_mapValues,
    Ledger.filter_comm files]
  rfl

/-! ### Locality -/

/-- The keys of the functions and classes of a file. -/
def keysOf (path content : String) : List String :=
  (functionsOf path content).map FunctionRecord.key ++
    (classesOf path content).map ClassRecord.key

theorem keyPath_of_mem_keysOf {key : String} (member : key ∈ keysOf path content) :
    keyPath key = path := by
  rcases List.mem_append.mp member with function | ofClass
  · obtain ⟨record, isFound, rfl⟩ := List.mem_map.mp function
    exact (keyPath_of_mem_functionsOf isFound).1
  · obtain ⟨record, isFound, rfl⟩ := List.mem_map.mp ofClass
    exact (keyPath_of_mem_classesOf isFound).1

/-- Different files have different keys, whatever is in them. -/
theorem disjoint_keysOf (apart : path ≠ path') (content content' : String) :
    (keysOf path content).Disjoint (keysOf path' content') := by
  intro key here there
  exact apart ((keyPath_of_mem_keysOf here).symm.trans (keyPath_of_mem_keysOf there))

/-- No file touches what the index of some files holds of another one. -/
structure IsLocal (files : Ledger String) : Prop where
  /-- What the index holds of a file is what it would hold if there were no other. -/
  alone : ∀ path content, files.get? path = some content →
    (build files).restrict (· == path) = build (.ofList [(path, content)])
  /-- More generally, what it holds of some files is their index. -/
  restricted : ∀ keep : String → Bool,
    (build files).restrict keep = build (files.filter fun path _ => keep path)
  /-- A function stands under its path and its name, and its path is one of the files. -/
  functions : ∀ key record, (build files).functions.get? key = some record →
    key = record.path ++ ":" ++ record.name ∧ record.path ∈ files.names
  /-- So does a class. -/
  classes : ∀ key record, (build files).classes.get? key = some record →
    key = record.path ++ ":" ++ record.name ∧ record.path ∈ files.names
  /-- Files share no key. -/
  apart : ∀ path path' content content', path ≠ path' →
    (keysOf path content).Disjoint (keysOf path' content')

/-- **Indexing is local to each file**, whatever the paths and the texts. -/
theorem build_isLocal (files : Ledger String) : IsLocal files where
  alone path content held := by
    rw [restrict_build, Ledger.filter_beq_name held]
  restricted keep := restrict_build keep files
  functions key record held := by
    obtain ⟨same, content, isFile, -⟩ := origin_of_functions_get? held
    exact ⟨same, Ledger.isSome_get?_iff.mp (by rw [isFile]; rfl)⟩
  classes key record held := by
    obtain ⟨same, content, isFile, -⟩ := origin_of_classes_get? held
    exact ⟨same, Ledger.isSome_get?_iff.mp (by rw [isFile]; rfl)⟩
  apart _ _ content content' different := disjoint_keysOf different content content'

end CodeBrief.Index
