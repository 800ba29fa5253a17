/-
**A member is selected with its file.**

A function or class that the query does not name has the score of its file, and its file is scored
before it. Ties keep their order in the ranking, so that the file is offered first; and no file that
is offered before something taken is passed over.

* `file_before_member` — a file is an earlier item than a member.
* `file_logged_of_above` — a file is taken if something ranked below it is.
* `file_taken_of_member` — so the file of a member that is taken is taken.
* `choose_comesWithFiles` — this for the selection for a query, whatever the budget.
-/

import CodeBrief.Proofs.Relevance.Entries

namespace CodeBrief

open Relevance (IsPlain queryWords scoreOf scores)

/-- The path and the name of a function or class. -/
def Selection.Item.place? : Selection.Item → Option (String × String)
  | .function record => some (record.path, record.name)
  | .class record => some (record.path, record.name)
  | _ => none

namespace Selection

section Members

variable {files : Ledger String} {item : Item} {path name : String}

theorem exists_file_of_member (held : (Index.build files).Holds item)
    (place : item.place? = some (path, name)) : ∃ content, files.get? path = some content := by
  cases item with
  | function record =>
    cases place
    obtain ⟨-, content, isFile, -⟩ := Index.origin_of_functions_get? held
    exact ⟨content, isFile⟩
  | «class» record =>
    cases place
    obtain ⟨-, content, isFile, -⟩ := Index.origin_of_classes_get? held
    exact ⟨content, isFile⟩
  | file _ _ => cases place
  | unknown => cases place

/-- **A file is an earlier item than a member.** -/
theorem file_before_member (held : (Index.build files).Holds item)
    (place : item.place? = some (path, name)) {content : String}
    (isFile : files.get? path = some content) :
    [.file path content, item].Sublist (Index.build files).items := by
  have member := (Index.keyed_build files).mem_items_iff.mpr held
  unfold Index.items at member ⊢
  rw [List.append_assoc] at member ⊢
  have first : Item.file path content ∈
      (Index.build files).files.entries.map fun entry => Item.file entry.1 entry.2 :=
    List.mem_map.mpr ⟨_, Ledger.get?_eq_some_iff.mp isFile, rfl⟩
  rcases List.mem_append.mp member with ofFile | later
  · obtain ⟨entry, -, rfl⟩ := List.mem_map.mp ofFile
    cases place
  · exact (List.singleton_sublist.mpr first).append (List.singleton_sublist.mpr later)

/-- **A member that is not named** has the score of its file. -/
theorem scoreOf_member (graph : ImportGraph) (recent words : List String) (intent : Intent)
    (place : item.place? = some (path, name))
    (unnamed : String.ofList (Text.lower name.toList) ∉ words) {content : String}
    (isFile : files.get? path = some content) :
    scoreOf (Index.build files) graph recent words intent item =
      scoreOf (Index.build files) graph recent words intent (.file path content) := by
  have score : Relevance.memberScore
      (Relevance.ofFiles (Index.build files) graph recent words intent) words path name =
        Relevance.fileScore graph recent words intent path content := by
    have held : (Relevance.ofFiles (Index.build files) graph recent words intent).get? path =
        some (Relevance.fileScore graph recent words intent path content : Int) := by
      rw [Relevance.ofFiles, Ledger.get?_mapValues]
      exact congrArg (Option.map _) isFile
    have plain : words.contains (String.ofList (Text.lower name.toList)) = false := by
      simpa using unnamed
    rw [Relevance.memberScore, held, plain]
    exact Int.add_zero _
  cases item with
  | function record =>
    cases place
    exact score
  | «class» record =>
    cases place
    exact score
  | file _ _ => cases place
  | unknown => cases place

end Members

/-! ### What is taken -/

section Taken

variable {index : Index} {budget : Int} {order : List (String × Int)}

/-- **A file is taken** if something ranked below it is. -/
theorem file_logged_of_above (distinct : (order.map Prod.fst).Nodup) {path content : String}
    (item : itemOf index path = .file path content) {score : Int} {other : String × Int}
    (pair : [(path, score), other].Sublist order)
    (taken : other.1 ∈ (admissions index budget 0 order).map Prod.fst) :
    path ∈ (admissions index budget 0 order).map Prod.fst := by
  obtain ⟨upper, below, rfl, inUpper, inBelow⟩ := List.cons_sublist_iff.mp pair
  obtain ⟨above, between, rfl⟩ := List.append_of_mem inUpper
  rw [List.append_assoc, List.cons_append] at distinct taken ⊢
  by_contra absent
  have known : itemOf index path ≠ .unknown := by
    rw [item]
    exact Item.noConfusion
  have later : ∃ entry ∈ between ++ below, entry.1 ∈ (admissions index budget 0
      (above ++ (path, score) :: (between ++ below))).map Prod.fst :=
    ⟨other, List.mem_append_right _ (List.singleton_sublist.mp inBelow), taken⟩
  obtain ⟨⟨record, same⟩ | ⟨record, same⟩, -⟩ :=
    passed_over index budget distinct known absent later
  · rw [item] at same
    cases same
  · rw [item] at same
    cases same

theorem path_mem_of_logged {path content : String} (item : itemOf index path = .file path content)
    (logged : path ∈ (admissions index budget 0 order).map Prod.fst) :
    path ∈ ((admissions index budget 0 order).filterMap fun entry => entry.2.file?).map
      SelectedFile.path := by
  obtain ⟨⟨path, admission⟩, inLog, rfl⟩ := List.mem_map.mp logged
  obtain ⟨used, score, admitted⟩ := admission?_of_mem_admissions index budget inLog
  obtain ⟨file, asFile, own⟩ := admission?_file path content
  rw [item, asFile] at admitted
  cases admitted
  exact List.mem_map.mpr ⟨file, List.mem_filterMap.mpr ⟨_, inLog, rfl⟩, own⟩

theorem Item.eq_function {item : Item} {record : FunctionRecord}
    (isFunction : item.function? = some record) : item = .function record := by
  cases item <;> cases isFunction
  rfl

theorem Item.eq_class {item : Item} {record : ClassRecord} (isClass : item.class? = some record) :
    item = .class record := by
  cases item <;> cases isClass
  rfl

/-- What is taken is what its key stands for. -/
theorem exists_key_of_taken {α : Type} {read : Admission → Option α} {readItem : Item → Option α}
    (same : ∀ {used score item admission}, admission? budget used score item = some admission →
      read admission = readItem item) {value : α}
    (member : value ∈ (admissions index budget 0 order).filterMap fun entry => read entry.2) :
    ∃ key ∈ (admissions index budget 0 order).map Prod.fst,
      readItem (itemOf index key) = some value := by
  obtain ⟨⟨key, admission⟩, inLog, isRead⟩ := List.mem_filterMap.mp member
  obtain ⟨used, score, admitted⟩ := admission?_of_mem_admissions index budget inLog
  exact ⟨key, List.mem_map_of_mem inLog, (same admitted).symm.trans isRead⟩

end Taken

/-! ### The selection for a query -/

section Choice

variable {files : Ledger String} (plain : ∀ path ∈ files.names, IsPlain path)
  (graph : ImportGraph) (recent : List String) (query : String) (intent : Intent) (budget : Int)
include plain

/-- The file of a member is taken if the member is. -/
theorem file_taken_of_member {key path name : String} {item : Item}
    (stands : itemOf (Index.build files) key = item) (place : item.place? = some (path, name))
    (unnamed : String.ofList (Text.lower name.toList) ∉ queryWords query)
    (taken : key ∈ (log (Index.build files)
      (scores (Index.build files) graph recent query intent).entries budget).map Prod.fst) :
    path ∈ ((log (Index.build files) (scores (Index.build files) graph recent query intent).entries
      budget).filterMap fun entry => entry.2.file?).map SelectedFile.path := by
  have known : item ≠ .unknown := by
    rintro rfl
    cases place
  obtain ⟨held, rfl⟩ := Relevance.holds_of_itemOf (Index.keyed_build files) stands known
  obtain ⟨content, isFile⟩ := exists_file_of_member held place
  have entries := (file_before_member held place isFile).map fun item => (item.key,
    scoreOf (Index.build files) graph recent (queryWords query) intent item)
  rw [← Relevance.entries_scores graph recent query intent plain] at entries
  have tie := scoreOf_member graph recent (queryWords query) intent place unnamed isFile
  have inOrder := (isRanking_ranked _).pair_sublist entries tie.symm
  have isPlain := plain path (Ledger.isSome_get?_iff.mp (by rw [isFile]; rfl))
  have atPath : itemOf (Index.build files) path = .file path content :=
    Relevance.itemOf_path isPlain isFile
  exact path_mem_of_logged atPath (file_logged_of_above (nodup_keys_ranked _) atPath inOrder taken)

end Choice

/-- Functions and classes that a query does not name come with their files. -/
structure ComesWithFiles (query : String) (selection : Selection) : Prop where
  /-- The functions. -/
  functions : ∀ record ∈ selection.functions,
    String.ofList (Text.lower record.name.toList) ∉ queryWords query →
      record.path ∈ selection.files.map SelectedFile.path
  /-- The classes. -/
  classes : ∀ record ∈ selection.classes,
    String.ofList (Text.lower record.name.toList) ∉ queryWords query →
      record.path ∈ selection.files.map SelectedFile.path

/-- **A function or class that the query does not name is selected with its file**, whole or cut
down, whatever the budget. -/
theorem choose_comesWithFiles {files : Ledger String} (plain : ∀ path ∈ files.names, IsPlain path)
    (graph : ImportGraph) (recent : List String) (query : String) (intent : Intent)
    (budget : Int) :
    (choose (Index.build files) (scores (Index.build files) graph recent query intent).entries
      budget).ComesWithFiles query := by
  rw [choose_eq]
  constructor
  · intro record member unnamed
    obtain ⟨key, taken, isFunction⟩ := exists_key_of_taken function?_of_admission? member
    exact file_taken_of_member plain graph recent query intent budget
      (Item.eq_function isFunction) rfl unnamed taken
  · intro record member unnamed
    obtain ⟨key, taken, isClass⟩ := exists_key_of_taken class?_of_admission? member
    exact file_taken_of_member plain graph recent query intent budget
      (Item.eq_class isClass) rfl unnamed taken

theorem choose_comesWithFiles_oneFile :
    let files : Ledger String := .ofList [("a.js", "function f() {}\nclass K {}")]
    let selection := choose (Index.build files)
      (scores (Index.build files) (.build files) [] "find f" (.classify "find f")).entries 1000
    (∀ path ∈ files.names, IsPlain path) ∧ selection.functions.map FunctionRecord.name = ["f"] ∧
      ∃ record ∈ selection.classes, record.name = "K" ∧
        record.path ∈ selection.files.map SelectedFile.path := by
  intro files selection
  have plain : ∀ path ∈ files.names, IsPlain path := by decide +kernel
  have named : selection.functions.map FunctionRecord.name = ["f"] := by decide +kernel
  have ofClass : "K" ∈ selection.classes.map ClassRecord.name := by decide +kernel
  obtain ⟨record, member, isK⟩ := List.mem_map.mp ofClass
  have unnamed : String.ofList (Text.lower record.name.toList) ∉ queryWords "find f" := by
    rw [isK]
    decide +kernel
  have withFiles := choose_comesWithFiles plain (.build files) [] "find f" (.classify "find f") 1000
  exact ⟨plain, named, record, member, isK, withFiles.classes record member unnamed⟩

end Selection

end CodeBrief
