/-
**What a selection consists of.**

A selection takes indexed files under their paths, and the functions and classes of the index under
their keys, each once.

* `Index.Keyed` — that the index holds its functions and classes under their own keys, as
  `keyed_build` says of an index that has been built.
* `scored_files_sublist` — the selected files, each with its score, stand in the ranking.
* `text_of_mem_choose` — a selected file is indexed, and has its text unless it is cut down.
* `nodup_functions_choose`, `nodup_classes_choose` — no key is selected twice. A key of a score
  stands for one record, and tells its key: it is that key behind a prefix.
-/

import CodeBrief.Proofs.Ledger
import CodeBrief.Proofs.Selection.RankOrder

namespace CodeBrief

/-! ### The keys of an index -/

/-- The functions and classes of an index stand under their own keys. -/
structure Index.Keyed (index : Index) : Prop where
  /-- The functions. -/
  functions : ∀ key record, index.functions.get? key = some record → record.key = key
  /-- The classes. -/
  classes : ∀ key record, index.classes.get? key = some record → record.key = key

/-- An entry made of a record and its key. -/
theorem key_of_mem_flatMap {α β : Type} {items : List α} {recordsOf : α → List β} {key : β → String}
    {entry : String × β}
    (member : entry ∈ items.flatMap fun item => (recordsOf item).map fun record =>
      (key record, record)) : key entry.2 = entry.1 := by
  obtain ⟨item, -, inside⟩ := List.mem_flatMap.mp member
  obtain ⟨record, -, rfl⟩ := List.mem_map.mp inside
  rfl

theorem Index.keyed_build (files : Ledger String) : (Index.build files).Keyed where
  functions _ _ found :=
    key_of_mem_flatMap (Ledger.mem_of_mem_ofList (Ledger.get?_eq_some_iff.mp found))
  classes _ _ found :=
    key_of_mem_flatMap (Ledger.mem_of_mem_ofList (Ledger.get?_eq_some_iff.mp found))

namespace Selection

theorem after?_eq_some {start key inner : String} (found : after? start key = some inner) :
    key = start ++ inner := by
  obtain ⟨rest, dropped, rfl⟩ := Option.map_eq_some_iff.mp found
  apply String.toList_injective
  rw [String.toList_append, String.toList_ofList]
  exact Pattern.dropPrefix?_eq_some.mp dropped

section Keys

variable {index : Index} {key : String}

/-- A key that stands for a function is one of the index behind a prefix. -/
theorem get?_of_function? {record : FunctionRecord}
    (item : (itemOf index key).function? = some record) :
    ∃ inner, key = Relevance.functionPrefix ++ inner ∧ index.functions.get? inner = some record := by
  unfold itemOf at item
  split at item
  · rename_i inner begins
    split at item
    · rename_i found
      cases item
      exact ⟨inner, after?_eq_some begins, found⟩
    · cases item
  · split at item <;> split at item <;> cases item

/-- A key that stands for a class is one of the index behind a prefix. -/
theorem get?_of_class? {record : ClassRecord} (item : (itemOf index key).class? = some record) :
    ∃ inner, key = Relevance.classPrefix ++ inner ∧ index.classes.get? inner = some record := by
  unfold itemOf at item
  split at item
  · split at item <;> cases item
  · split at item
    · rename_i inner begins
      split at item
      · rename_i found
        cases item
        exact ⟨inner, after?_eq_some begins, found⟩
      · cases item
    · split at item <;> cases item

variable (keyed : index.Keyed)
include keyed

theorem key_of_function? {record : FunctionRecord}
    (item : (itemOf index key).function? = some record) :
    key = Relevance.functionPrefix ++ record.key := by
  obtain ⟨inner, same, found⟩ := get?_of_function? item
  rw [same, keyed.functions _ _ found]

theorem key_of_class? {record : ClassRecord} (item : (itemOf index key).class? = some record) :
    key = Relevance.classPrefix ++ record.key := by
  obtain ⟨inner, same, found⟩ := get?_of_class? item
  rw [same, keyed.classes _ _ found]

end Keys

/-- Records that are read off distinct keys, each of which tells the key of its record, have
distinct keys. -/
theorem nodup_keys_filterMap {α : Type} {read : String → Option α} {keyOf : α → String}
    {start : String} (told : ∀ key record, read key = some record → key = start ++ keyOf record)
    {order : List (String × Int)} (distinct : (order.map Prod.fst).Nodup) :
    ((order.filterMap fun entry => read entry.1).map keyOf).Nodup := by
  have keys : (order.filterMap fun entry => read entry.1).map keyOf =
      (order.map Prod.fst).filterMap fun key => (read key).map keyOf := by
    rw [List.map_filterMap, List.filterMap_map]
    rfl
  rw [keys]
  refine distinct.filterMap fun first second key here there => ?_
  obtain ⟨record, found, rfl⟩ := Option.map_eq_some_iff.mp here
  obtain ⟨other, foundOther, same⟩ := Option.map_eq_some_iff.mp there
  rw [told first record found, told second other foundOther, same]

/-! ### Files -/

/-- **The files taken, each with its score, stand in the ranking.** -/
theorem scored_files_sublist (index : Index) (budget used : Int) (order : List (String × Int)) :
    (((admissions index budget used order).filterMap fun entry => entry.2.file?).map fun file =>
      (file.path, file.relevance)).Sublist order := by
  fun_induction admissions index budget used order with
  | case1 used => exact List.Sublist.slnil
  | case2 used key score rest full => exact List.nil_sublist _
  | case3 used key score rest room skipped ih => exact ih.cons _
  | case4 used key score rest room admission taken ih =>
    cases admission with
    | file file =>
      obtain ⟨content, item⟩ := item_of_file taken
      have scored : (file.path, file.relevance) = (key, score) := by
        rw [(itemOf_eq_file item).1, relevance_of_admission? taken]
      exact scored ▸ ih.cons_cons _
    | function record => exact ih.cons _
    | «class» record => exact ih.cons _

section Choice

variable (index : Index) (scores : Ledger Int) (budget : Int)

theorem nodup_keys_ranked : ((ranked scores.entries).map Prod.fst).Nodup :=
  ((isRanking_ranked scores.entries).perm.map Prod.fst).nodup_iff.mpr scores.distinct

theorem scored_files_choose :
    ((choose index scores.entries budget).files.map fun file =>
      (file.path, file.relevance)).Sublist (ranked scores.entries) := by
  rw [choose_eq]
  exact scored_files_sublist index budget 0 _

theorem nodup_paths_choose :
    ((choose index scores.entries budget).files.map SelectedFile.path).Nodup := by
  have paths := (scored_files_choose index scores budget).map Prod.fst
  rw [List.map_map] at paths
  exact (nodup_keys_ranked scores).sublist paths

/-- The files are selected from the highest score down. -/
theorem descending_choose :
    (choose index scores.entries budget).files.Pairwise fun higher lower =>
      lower.relevance ≤ higher.relevance :=
  List.pairwise_map.mp
    ((isRanking_ranked scores.entries).descending.sublist (scored_files_choose index scores budget))

/-- **A selected file is indexed**, and it has its text unless it is cut down. -/
theorem text_of_mem_choose {file : SelectedFile}
    (member : file ∈ (choose index scores.entries budget).files) :
    ∃ content, index.files.get? file.path = some content ∧
      (file.summarized = false → file.content = content) := by
  rw [choose_eq] at member
  obtain ⟨⟨key, admission⟩, logged, isFile⟩ := List.mem_filterMap.mp member
  obtain ⟨used, score, taken⟩ := admission?_of_mem_admissions index budget logged
  cases admission with
  | file chosen =>
    cases isFile
    obtain ⟨content, item⟩ := item_of_file taken
    obtain ⟨path, found⟩ := itemOf_eq_file item
    rw [path]
    refine ⟨content, found, fun whole => ?_⟩
    rcases admission?_eq_some taken with ⟨-, kept⟩ | ⟨_, _, _, _, cut⟩
    · rw [item] at kept
      exact congrArg SelectedFile.content (Admission.file.inj (Option.some.inj kept)).symm
    · rw [Admission.file.inj cut] at whole
      cases whole
  | function record => cases isFile
  | «class» record => cases isFile

/-! ### Functions and classes -/

theorem functions_choose_sublist :
    (choose index scores.entries budget).functions.Sublist
      ((ranked scores.entries).filterMap fun entry => (itemOf index entry.1).function?) := by
  rw [choose_eq]
  exact filterMap_admissions_sublist index budget function?_of_admission? 0 _

theorem classes_choose_sublist :
    (choose index scores.entries budget).classes.Sublist
      ((ranked scores.entries).filterMap fun entry => (itemOf index entry.1).class?) := by
  rw [choose_eq]
  exact filterMap_admissions_sublist index budget class?_of_admission? 0 _

variable {index}

/-- A selected function is indexed. -/
theorem get?_of_mem_functions_choose {record : FunctionRecord}
    (member : record ∈ (choose index scores.entries budget).functions) :
    ∃ key, index.functions.get? key = some record := by
  obtain ⟨entry, -, item⟩ :=
    List.mem_filterMap.mp ((functions_choose_sublist index scores budget).subset member)
  obtain ⟨inner, -, found⟩ := get?_of_function? item
  exact ⟨inner, found⟩

theorem nodup_functions_choose (keyed : index.Keyed) :
    ((choose index scores.entries budget).functions.map FunctionRecord.key).Nodup := by
  refine List.Nodup.sublist ((functions_choose_sublist index scores budget).map _) ?_
  exact nodup_keys_filterMap (fun _ _ item => key_of_function? keyed item)
    (nodup_keys_ranked scores)

theorem nodup_classes_choose (keyed : index.Keyed) :
    ((choose index scores.entries budget).classes.map ClassRecord.key).Nodup := by
  refine List.Nodup.sublist ((classes_choose_sublist index scores budget).map _) ?_
  exact nodup_keys_filterMap (fun _ _ item => key_of_class? keyed item)
    (nodup_keys_ranked scores)

end Choice

end Selection

end CodeBrief
