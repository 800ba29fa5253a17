/-
**What stands under a key of an index.**

A key tells its file (`keyPath`), and no other file has records under it. So what stands under it is
the last record with this key among those of its file, and nothing else in the files matters.

* `get?_gather` — this for records gathered from files.
* `functions_get?_build`, `classes_get?_build` — this for an index.
* `get?_functions_name` — the function of a file that has a given name.
-/

import CodeBrief.Proofs.Index.Locality

namespace CodeBrief.Index

section Gather

variable {β : Type} {recordsOf : String → String → List β} {keyOf pathOf : β → String}

theorem gather_singleton (path content : String) :
    gather recordsOf keyOf (.ofList [(path, content)]) =
      .ofList ((recordsOf path content).map fun record => (keyOf record, record)) := by
  have one : (Ledger.ofList [(path, content)]).entries = [(path, content)] := rfl
  rw [gather_eq, one, List.flatMap_singleton]

/-- **Only the file that a key tells matters for what stands under it.** -/
theorem get?_gather (told : ∀ path content, ∀ record ∈ recordsOf path content,
      keyPath (keyOf record) = path ∧ pathOf record = path) (files : Ledger String)
    (key : String) :
    (gather recordsOf keyOf files).get? key = (files.get? (keyPath key)).bind fun content =>
      ((recordsOf (keyPath key) content).filter fun record => keyOf record == key).getLast? := by
  -- What is held under the key comes from its file, so that the others can be dropped.
  have dropped : (gather recordsOf keyOf files).get? key =
      (gather recordsOf keyOf (files.filter fun path _ => path == keyPath key)).get? key := by
    rw [← filter_gather told (· == keyPath key)]
    apply Option.ext
    intro record
    rw [Ledger.get?_filter_eq_some]
    refine ⟨fun held => ⟨held, ?_⟩, fun held => held.1⟩
    obtain ⟨rfl, path, content, -, isFound⟩ := mem_of_get?_gather held
    obtain ⟨fromKey, fromRecord⟩ := told path content record isFound
    simp [fromKey, fromRecord]
  rw [dropped]
  cases isFile : files.get? (keyPath key) with
  | none =>
    have nothing : files.filter (fun path _ => path == keyPath key) = .empty := by
      apply Ledger.ext_entries
      refine List.filter_eq_nil_iff.mpr fun entry member same => ?_
      have absent := Ledger.get?_eq_none_iff.mp isFile
      exact absent (beq_iff_eq.mp same ▸ List.mem_map_of_mem member)
    rw [nothing]
    rfl
  | some content =>
    have own : (fun pair : String × β => pair.1 == key) ∘ (fun record => (keyOf record, record)) =
        fun record => keyOf record == key := rfl
    rw [Ledger.filter_beq_name isFile, gather_singleton, Ledger.get?_ofList, List.filter_map, own,
      List.getLast?_map, Option.map_map]
    exact Option.map_id'

end Gather

variable (files : Ledger String) (key : String)

theorem functions_get?_build :
    (build files).functions.get? key = (files.get? (keyPath key)).bind fun content =>
      ((functionsOf (keyPath key) content).filter fun record => record.key == key).getLast? := by
  rw [functions_build]
  exact get?_gather (fun _ _ _ isFound => keyPath_of_mem_functionsOf isFound) files key

theorem classes_get?_build :
    (build files).classes.get? key = (files.get? (keyPath key)).bind fun content =>
      ((classesOf (keyPath key) content).filter fun record => record.key == key).getLast? := by
  rw [classes_build]
  exact get?_gather (fun _ _ _ isFound => keyPath_of_mem_classesOf isFound) files key

variable {files} {path content name : String}

/-- **The function of a file that has a given name** is the last one that is found with it. -/
theorem get?_functions_name (isFile : files.get? path = some content)
    (isWord : Pattern.IsWord name) :
    (build files).functions.get? (recordKey path name) =
      ((((Script.functions content.toList).filter fun find => find.name == name).getLast?).map
        (FunctionRecord.ofFind path)) := by
  have named : (functionsOf path content).filter (fun record => record.key == recordKey path name) =
      ((Script.functions content.toList).filter fun find => find.name == name).map
        (FunctionRecord.ofFind path) := by
    unfold functionsOf
    rw [List.filter_map]
    congr 1
    refine List.filter_congr fun find member => ?_
    have spelled : (FunctionRecord.ofFind path find).key = recordKey path find.name := rfl
    have isWord' := Script.isWord_of_mem_functions member
    rw [Function.comp_apply, Bool.eq_iff_iff, beq_iff_eq, beq_iff_eq, spelled,
      recordKey_inj isWord' isWord]
    simp
  rw [functions_get?_build, keyPath_recordKey path isWord, isFile, Option.bind_some, named,
    List.getLast?_map]

end CodeBrief.Index
