/-
**A script is at least as complex as each of its functions.**

The index counts the complexity of a function in its body, the import graph that of a script in its
whole text. A function that is declared has a block of the text for its body, which begins at the
brace that the declaration ends with; any other function has no body.

* `complexity_find_le` — a function that is found in a text is at most as complex as the text.
* `complexity_le_complexityOf` — this for the functions of an index and the scripts of a graph.
-/

import CodeBrief.Proofs.ImportGraph.Importers
import CodeBrief.Proofs.Index.Keys
import CodeBrief.Proofs.Script.Complexity
import CodeBrief.Proofs.Script.Declarations

namespace CodeBrief

namespace Script

open Pattern

/-- **A function that is found in a text** is at most as complex as the text. -/
theorem complexity_find_le {text : List Char} {find : FunctionFind}
    (member : find ∈ functions text) : complexity find.body ≤ complexityOf text := by
  have nameOnly : ∀ name, complexity (FunctionFind.named name).body ≤ complexityOf text := by
    intro name
    have empty : complexity (FunctionFind.named name).body = 1 := complexityOf_nil
    rw [empty]
    exact complexityOf_pos text
  unfold functions at member
  rcases List.mem_append.mp member with earlier | bare
  · rcases List.mem_append.mp earlier with isDeclared | bound
    · rw [declared_eq] at isDeclared
      obtain ⟨hit, isMatch, rfl⟩ := List.mem_map.mp isDeclared
      obtain ⟨before, whole⟩ := exists_eq_append_fromBrace takes_declaration isMatch
      have body : complexity hit.find.body = complexityOf (blockAt (fromBrace hit.after)) := by
        rw [complexity, Declaration.find, String.toList_ofList]
      rw [body, whole]
      exact complexityOf_block_le before hit.after
    · obtain ⟨name, -, rfl⟩ := List.mem_map.mp bound
      exact nameOnly name
  · obtain ⟨name, -, rfl⟩ := List.mem_map.mp bare
    exact nameOnly name

end Script

/-- A function of an index is at most as complex as the text of its file. -/
theorem Index.complexity_le_of_get? {files : Ledger String} {key : String}
    {record : FunctionRecord} (held : (build files).functions.get? key = some record) :
    ∃ content, files.get? record.path = some content ∧ 0 ≤ record.complexity ∧
      record.complexity ≤ (Script.complexityOf content.toList : Int) := by
  obtain ⟨-, content, isFile, isFound⟩ := origin_of_functions_get? held
  obtain ⟨find, member, same⟩ := List.mem_map.mp isFound
  have ofFunction : record.complexity = (Script.complexity find.body : Int) := by
    rw [← same]
    rfl
  rw [ofFunction]
  exact ⟨content, isFile, Int.natCast_nonneg _, Int.ofNat_le.mpr (Script.complexity_find_le member)⟩

/-- **A script is at least as complex as each of its functions**, as the import graph counts the one
and the index the others. -/
theorem Index.complexity_le_complexityOf {files : Ledger String} {key : String}
    {record : FunctionRecord} (held : (build files).functions.get? key = some record)
    (script : Path.isScript record.path = true) :
    record.complexity ≤ (ImportGraph.build files).complexityOf record.path := by
  obtain ⟨content, isFile, -, bound⟩ := complexity_le_of_get? held
  have facts : (ImportGraph.build files).scripts.get? record.path = some (.ofText content) :=
    ImportGraph.get?_scripts_build.mpr ⟨content, isFile, script, rfl⟩
  have ofScript : (ImportGraph.build files).complexityOf record.path =
      (Script.complexityOf content.toList : Int) := by
    unfold ImportGraph.complexityOf
    rw [facts]
    rfl
  rw [ofScript]
  exact bound

/-- A function whose body is never closed, with branches around it. -/
theorem Index.complexity_le_complexityOf_unclosed :
    let files : Ledger String :=
      .ofList [("a.ts", "if (x) y ? function f(a) \x7b case (a&&b)||c ? 'elsewhere' : a")]
    ∃ record, (build files).functions.get? "a.ts:f" = some record ∧ record.complexity = 5 ∧
      record.complexity ≤ (ImportGraph.build files).complexityOf "a.ts" := by
  intro files
  have found : ((build files).functions.get? "a.ts:f").map FunctionRecord.path = some "a.ts" := by
    decide +kernel
  have counted : ((build files).functions.get? "a.ts:f").map FunctionRecord.complexity = some 5 := by
    decide +kernel
  obtain ⟨record, held, path⟩ := Option.map_eq_some_iff.mp found
  rw [held, Option.map_some, Option.some.injEq] at counted
  have script : Path.isScript record.path = true := by
    rw [path]
    decide +kernel
  have bound := complexity_le_complexityOf held script
  rw [path] at bound
  exact ⟨record, held, counted, bound⟩

end CodeBrief
