/-
**The index of functions that have been written.**

Functions that are written one after another are read back as they were: in their order, with their
names, parameters and bodies, and without further finds. Where a name is written more than once, the
index keeps the last function that has it.

* `readsBack_writtenFunctions` — the three passes and the index on such a text.
-/

import CodeBrief.Proofs.Index.Lookup
import CodeBrief.Proofs.Script.WrittenFunctions

namespace CodeBrief.Index

open Pattern Script

/-- **Reading back what has been written.** The first pass finds the functions of the text in their
order, the other two passes find nothing, and the index of any files that have the text among them
holds under each name the last function of this name. -/
theorem readsBack_writtenFunctions {finds : List FunctionFind}
    (plain : ∀ find ∈ finds, find.IsPlain) :
    let text := writtenFunctions finds
    declared text = finds ∧ found arrowBinding text = [] ∧ methodNames text = [] ∧
      Script.functions text = finds ∧
      ∀ (files : Ledger String) (path : String), files.get? path = some (String.ofList text) →
        ∀ name, IsWord name → (build files).functions.get? (path ++ ":" ++ name) =
          ((finds.filter fun find => find.name == name).getLast?).map
            (FunctionRecord.ofFind path) := by
  have all := functions_writtenFunctions plain
  refine ⟨declared_writtenFunctions plain,
    found_arrowBinding_of_isArrowFree (isArrowFree_writtenFunctions plain),
    methodNames_writtenFunctions plain, all, ?_⟩
  intro files path isFile name isWord
  have held := get?_functions_name isFile isWord
  rw [String.toList_ofList, all] at held
  exact held

/-- A name that is a keyword, a parameter with an opening parenthesis in it, nested braces, and a
name that is written twice. -/
theorem readsBack_writtenFunctions_redeclared :
    let finds : List FunctionFind := [⟨"f", ["a", "b = g(1"], "{ return a }"⟩,
      ⟨"function", [], "{ do { if } }"⟩, ⟨"f", ["c"], "{ }"⟩]
    let text := writtenFunctions finds
    (∀ find ∈ finds, find.IsPlain) ∧ Script.functions text = finds ∧
      ∃ record, (build (.ofList [("a.js", String.ofList text)])).functions.get? "a.js:f" =
        some record ∧ record.params = ["c"] ∧ record.body = "{ }" := by
  intro finds text
  have plain : ∀ find ∈ finds, find.IsPlain := by decide +kernel
  obtain ⟨-, -, -, all, held⟩ := readsBack_writtenFunctions plain
  have isFile : (Ledger.ofList [("a.js", String.ofList text)]).get? "a.js" =
      some (String.ofList text) := by decide +kernel
  exact ⟨plain, all, _, held _ _ isFile "f" (by decide +kernel), rfl, rfl⟩

end CodeBrief.Index
