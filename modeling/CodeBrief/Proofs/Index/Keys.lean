/-
**The keys of an index.**

The key of a function or a class is its path, a colon and its name. A path may hold any number of
colons. A name that is found in a script holds none, as it is a word; so the path of a key is what
stands before its last colon, and two files never share a key.

* `isWord_of_mem_functions`, `isWord_of_mem_classes` — the names that are found are words.
* `keyPath_recordKey`, `recordKey_inj` — what a key tells.
* `Index.gather` — records gathered from files under their keys, as both the functions and the
  classes of an index are; `mem_of_get?_gather` says that what is held has been found in a file.
* `Index.origin_of_functions_get?`, `Index.origin_of_classes_get?` — this for an index.
-/

import CodeBrief.Index
import CodeBrief.Proofs.Ledger
import CodeBrief.Proofs.Pattern.Values

namespace CodeBrief

/-! ### Names -/

namespace Script

open Pattern

theorem gives_declaration : Gives declaration fun found => IsWord found.1 := by
  refine .bind fun _ => .bind fun _ => gives_word.bind_of fun name isWord => ?_
  exact .bind fun _ => .bind fun _ => .bind fun _ => .bind fun _ => gives_pure isWord

theorem gives_arrowBinding : Gives arrowBinding IsWord := by
  refine .bind fun _ => .bind fun _ => gives_word.bind_of fun name isWord => ?_
  exact .bind fun _ => .bind fun _ => .bind fun _ => .bind fun _ => gives_pure isWord

theorem gives_bareMethod : Gives bareMethod IsWord := by
  refine gives_word.bind_of fun name isWord => ?_
  exact .bind fun _ => .bind fun _ => .bind fun _ => .bind fun _ => gives_pure isWord

theorem gives_classDeclaration : Gives classDeclaration fun found => IsWord found.1 := by
  refine .bind fun _ => .bind fun _ => gives_word.bind_of fun name isWord => ?_
  exact .bind fun _ => gives_pure isWord

theorem isWord_of_mem_methodNames {text : List Char} {name : String}
    (member : name ∈ methodNames text) : IsWord name := by
  obtain ⟨hit, kept, rfl⟩ := List.mem_map.mp member
  exact gives_of_mem_allMatches (gives_atWordStart gives_bareMethod) (List.mem_of_mem_filter kept)

/-- **The name of a function is a word**, whichever pass finds it. -/
theorem isWord_of_mem_functions {text : List Char} {find : FunctionFind}
    (member : find ∈ functions text) : IsWord find.name := by
  unfold functions at member
  rcases List.mem_append.mp member with earlier | bare
  · rcases List.mem_append.mp earlier with declared | bound
    · obtain ⟨hit, matched, rfl⟩ := List.mem_map.mp declared
      exact gives_of_mem_allMatches (fun _ => gives_declaration) matched
    · obtain ⟨name, isFound, rfl⟩ := List.mem_map.mp bound
      exact gives_of_mem_found gives_arrowBinding isFound
  · obtain ⟨name, isFound, rfl⟩ := List.mem_map.mp bare
    exact isWord_of_mem_methodNames isFound

/-- **The name of a class is a word.** -/
theorem isWord_of_mem_classes {text : List Char} {find : ClassFind}
    (member : find ∈ classes text) : IsWord find.name := by
  obtain ⟨hit, matched, rfl⟩ := List.mem_map.mp member
  exact gives_of_mem_allMatches (fun _ => gives_classDeclaration) matched

end Script

/-! ### Keys -/

open Pattern (IsWord)

theorem colon_not_mem {name : String} (isWord : IsWord name) : ':' ∉ name.toList := by
  intro member
  have colon : Text.isWord ':' = false := by decide
  rw [isWord.2 _ member] at colon
  cases colon

theorem dropWhile_append_of_not_mem {left right : List Char} {c : Char} (absent : c ∉ left) :
    (left ++ c :: right).dropWhile (· != c) = c :: right := by
  have others : ∀ x ∈ left, (x != c) = true := by
    intro x member
    rw [bne_iff_ne]
    rintro rfl
    exact absent member
  rw [List.dropWhile_append_of_pos others, List.dropWhile_cons_of_neg (by simp)]

/-- The path in a key: what stands before its last colon. -/
def keyPath (key : String) : String :=
  String.ofList ((key.toList.reverse.dropWhile (· != ':')).drop 1).reverse

theorem toList_recordKey (path name : String) :
    (recordKey path name).toList = path.toList ++ ':' :: name.toList := by
  have colon : ":".toList = [':'] := by decide
  rw [recordKey, String.toList_append, String.toList_append, colon, List.append_assoc,
    List.singleton_append]

/-- **A key tells its path.** -/
theorem keyPath_recordKey (path : String) {name : String} (isWord : IsWord name) :
    keyPath (recordKey path name) = path := by
  have backwards : (recordKey path name).toList.reverse =
      name.toList.reverse ++ ':' :: path.toList.reverse := by
    rw [toList_recordKey, List.reverse_append, List.reverse_cons, List.append_assoc,
      List.singleton_append]
  have absent : ':' ∉ name.toList.reverse := by
    rw [List.mem_reverse]
    exact colon_not_mem isWord
  unfold keyPath
  rw [backwards, dropWhile_append_of_not_mem absent, List.drop_succ_cons, List.drop_zero,
    List.reverse_reverse, String.ofList_toList]

/-- **A key tells its path and its name.** -/
theorem recordKey_inj {path path' name name' : String} (isWord : IsWord name)
    (isWord' : IsWord name') :
    recordKey path name = recordKey path' name' ↔ path = path' ∧ name = name' := by
  constructor
  · intro same
    have samePath : path = path' := by
      rw [← keyPath_recordKey path isWord, same, keyPath_recordKey path' isWord']
    subst samePath
    refine ⟨rfl, String.toList_injective ?_⟩
    have spelled := congrArg String.toList same
    rw [toList_recordKey, toList_recordKey, List.append_cancel_left_eq, List.cons.injEq] at spelled
    exact spelled.2
  · rintro ⟨rfl, rfl⟩
    rfl

/-! ### Gathering records -/

namespace Index

section Gather

variable {β : Type} {recordsOf : String → String → List β} {keyOf : β → String}

/-- The records of some files under their keys, one file after another. -/
def gather (recordsOf : String → String → List β) (keyOf : β → String) (files : Ledger String) :
    Ledger β :=
  .ofList <| files.entries.flatMap fun (path, content) =>
    (recordsOf path content).map fun record => (keyOf record, record)

/-- **What is held has been found in a file.** -/
theorem mem_of_get?_gather {files : Ledger String} {key : String} {record : β}
    (held : (gather recordsOf keyOf files).get? key = some record) :
    key = keyOf record ∧
      ∃ path content, files.get? path = some content ∧ record ∈ recordsOf path content := by
  have entered := Ledger.mem_of_mem_ofList (Ledger.get?_eq_some_iff.mp held)
  obtain ⟨⟨path, content⟩, member, inside⟩ := List.mem_flatMap.mp entered
  obtain ⟨found, isFound, same⟩ := List.mem_map.mp inside
  cases same
  exact ⟨rfl, path, content, Ledger.get?_eq_some_iff.mpr member, isFound⟩

end Gather

variable (files : Ledger String)

theorem functions_build :
    (build files).functions = gather functionsOf FunctionRecord.key files := rfl

theorem classes_build : (build files).classes = gather classesOf ClassRecord.key files := rfl

variable {files} {path content key : String}

/-- A function of a file tells the file, and its name is a word. -/
theorem of_mem_functionsOf {record : FunctionRecord} (found : record ∈ functionsOf path content) :
    record.path = path ∧ IsWord record.name := by
  obtain ⟨find, isFound, rfl⟩ := List.mem_map.mp found
  exact ⟨rfl, Script.isWord_of_mem_functions isFound⟩

/-- A class of a file tells the file, and its name is a word. -/
theorem of_mem_classesOf {record : ClassRecord} (found : record ∈ classesOf path content) :
    record.path = path ∧ IsWord record.name := by
  obtain ⟨find, isFound, rfl⟩ := List.mem_map.mp found
  exact ⟨rfl, Script.isWord_of_mem_classes isFound⟩

/-- **The functions of an index** stand under their keys, and have been found in its files. -/
theorem origin_of_functions_get? {record : FunctionRecord}
    (held : (build files).functions.get? key = some record) :
    key = record.key ∧
      ∃ content, files.get? record.path = some content ∧
        record ∈ functionsOf record.path content := by
  rw [functions_build] at held
  obtain ⟨same, path, content, isFile, isFound⟩ := mem_of_get?_gather held
  have own := (of_mem_functionsOf isFound).1
  exact ⟨same, content, own ▸ isFile, own ▸ isFound⟩

/-- **The classes of an index** stand under their keys, and have been found in its files. -/
theorem origin_of_classes_get? {record : ClassRecord}
    (held : (build files).classes.get? key = some record) :
    key = record.key ∧
      ∃ content, files.get? record.path = some content ∧
        record ∈ classesOf record.path content := by
  rw [classes_build] at held
  obtain ⟨same, path, content, isFile, isFound⟩ := mem_of_get?_gather held
  have own := (of_mem_classesOf isFound).1
  exact ⟨same, content, own ▸ isFile, own ▸ isFound⟩

end Index

end CodeBrief
