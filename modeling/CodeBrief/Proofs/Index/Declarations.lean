/-
**When a declared function keeps its parameters and body.**

A declaration is found with its parameters and body. A bare method of the same name is found later,
with nothing but the name, and takes its place. Where the bare method is the name of a declaration
again it should have been passed over, but the word `function` is looked for only `lookBack`
characters back, and only as a whole word.

* `mem_methodNames_iff` — which declared names are found as bare methods again.
* `kept_iff_isFoundAgain` — if a name is found nowhere else, the function has the parameters and the
  body of its last declaration exactly if the declarations of the name are within reach.
-/

import CodeBrief.Proofs.Index.Lookup
import CodeBrief.Proofs.Script.Block
import CodeBrief.Proofs.Script.Declarations

namespace CodeBrief.Index

open Pattern Script

/-- Something that looks like a bare method of this name stands at the name of a declaration. -/
def RepeatsAsBare (text : List Char) (name : String) (hit : Declaration) : Prop :=
  ∃ bare ∈ bareMethods text, bare.value = name ∧ bare.before.length = nameOffset text hit

theorem body_find_ne_empty (hit : Declaration) : hit.find.body ≠ "" := by
  obtain ⟨inner, rest, block, -, -⟩ := blockAt_fromBrace hit.after
  intro empty
  have spelled := congrArg String.toList empty
  rw [Declaration.find, String.toList_ofList, block] at spelled
  cases spelled

variable {text : List Char} {name : String}

/-- A name that looks like a bare method only at declarations is found as one exactly if some of
these declarations is out of reach. -/
theorem mem_methodNames_iff
    (onlyDeclared : ∀ bare ∈ bareMethods text, bare.value = name →
      ∃ hit ∈ declarations text, bare.before.length = nameOffset text hit) :
    name ∈ methodNames text ↔ name ∉ controlWords ∧
      ∃ hit ∈ declarations text, RepeatsAsBare text name hit ∧ ¬ WithinReach text hit := by
  rw [mem_methodNames]
  refine and_congr_right fun _ => ⟨?_, ?_⟩
  · rintro ⟨bare, isBare, named, missed⟩
    obtain ⟨hit, isDeclared, same⟩ := onlyDeclared bare isBare named
    refine ⟨hit, isDeclared, ⟨bare, isBare, named, same⟩, fun reached => missed ?_⟩
    exact (followsFunctionWord_iff isBare isDeclared same).mpr reached
  · rintro ⟨hit, isDeclared, ⟨bare, isBare, named, same⟩, beyond⟩
    refine ⟨bare, isBare, named, fun follows => beyond ?_⟩
    exact (followsFunctionWord_iff isBare isDeclared same).mp follows

theorem exists_lastDeclaration (isDeclared : name ∈ (declared text).map FunctionFind.name) :
    ∃ last, lastDeclaration? text name = some last ∧ last.value.1 = name := by
  rw [declared_eq, List.map_map] at isDeclared
  obtain ⟨hit, member, named⟩ := List.mem_map.mp isDeclared
  have inside : hit ∈ (declarations text).filter fun other => other.value.1 == name :=
    List.mem_filter.mpr ⟨member, beq_iff_eq.mpr named⟩
  obtain ⟨last, isLast⟩ := Option.isSome_iff_exists.mp
    (List.getLast?_isSome.mpr (List.ne_nil_of_mem inside))
  have kept := List.mem_filter.mp (List.mem_of_getLast? isLast)
  exact ⟨last, isLast, beq_iff_eq.mp kept.2⟩

/-- Wherever a declaration of this name looks like a bare method, its word `function` is found again
from the name. Control words are no names of bare methods. -/
def IsFoundAgain (text : List Char) (name : String) : Prop :=
  name ∈ controlWords ∨
    ∀ hit ∈ declarations text, RepeatsAsBare text name hit → WithinReach text hit

/-- **A declared function keeps its parameters and body exactly if its name is within reach.** Let a
name be declared in a file, bound to no arrow function, and look like a bare method only where it is
declared. Then the function of this name has the parameters and the body of the last declaration
exactly if the word `function` is found again from each of these places; else it has neither. -/
theorem kept_iff_isFoundAgain {files : Ledger String} {path content : String}
    (isFile : files.get? path = some content)
    (isDeclared : name ∈ (declared content.toList).map FunctionFind.name)
    (notArrow : name ∉ found arrowBinding content.toList)
    (onlyDeclared : ∀ bare ∈ bareMethods content.toList, bare.value = name →
      ∃ hit ∈ declarations content.toList, bare.before.length = nameOffset content.toList hit) :
    ∃ last record, lastDeclaration? content.toList name = some last ∧
      (build files).functions.get? (path ++ ":" ++ name) = some record ∧
      ((record.params = paramsOf last.value.2 ∧
          record.body = String.ofList (blockAt (fromBrace last.after))) ↔
        IsFoundAgain content.toList name) ∧
      (¬ IsFoundAgain content.toList name → record.params = [] ∧ record.body = "") := by
  obtain ⟨last, isLast, rfl⟩ := exists_lastDeclaration isDeclared
  have isWord : IsWord last.value.1 :=
    gives_of_mem_allMatches (fun _ => gives_declaration)
      (List.mem_of_mem_filter (List.mem_of_getLast? isLast))
  have held := get?_functions_name isFile isWord
  rw [getLast?_functions notArrow, isLast] at held
  by_cases bare : last.value.1 ∈ methodNames content.toList
  · -- The bare method has come last.
    rw [if_pos bare] at held
    obtain ⟨notControl, hit, member, repeats, beyond⟩ := (mem_methodNames_iff onlyDeclared).mp bare
    have missed : ¬ IsFoundAgain content.toList last.value.1 := by
      rintro (isControl | reached)
      · exact notControl isControl
      · exact beyond (reached hit member repeats)
    refine ⟨last, _, isLast, held, ⟨fun kept => ?_, fun again => absurd again missed⟩, ?_⟩
    · exact absurd kept.2.symm (body_find_ne_empty last)
    · exact fun _ => ⟨rfl, rfl⟩
  · rw [if_neg bare] at held
    have again : IsFoundAgain content.toList last.value.1 := by
      by_contra missed
      unfold IsFoundAgain at missed
      push Not at missed
      exact bare ((mem_methodNames_iff onlyDeclared).mpr missed)
    exact ⟨last, _, isLast, held, ⟨fun _ => again, fun _ => ⟨rfl, rfl⟩⟩,
      fun missed => absurd again missed⟩

/-- Two declarations of one name: the second one is kept. -/
theorem kept_iff_isFoundAgain_redeclared :
    let content := "function f(a) { return a }\nasync function\n  f (b, c) { if (b) { return c } }"
    let files : Ledger String := .ofList [("a.js", content)]
    ∃ record, (build files).functions.get? "a.js:f" = some record ∧
      record.params = ["b", "c"] ∧ record.body = "{ if (b) { return c } }" := by
  intro content files
  have isFile : files.get? "a.js" = some content := by decide +kernel
  have onlyDeclared : ∀ bare ∈ bareMethods content.toList, bare.value = "f" →
      ∃ hit ∈ declarations content.toList,
        bare.before.length = nameOffset content.toList hit := by decide +kernel
  obtain ⟨last, record, isLast, held, kept, -⟩ := kept_iff_isFoundAgain isFile
    (by decide +kernel) (by decide +kernel) onlyDeclared
  have again : IsFoundAgain content.toList "f" := by
    have reached : ∀ hit ∈ declarations content.toList, WithinReach content.toList hit := by
      decide +kernel
    exact Or.inr fun hit member _ => reached hit member
  have found : (lastDeclaration? content.toList "f").map Declaration.find =
      some ⟨"f", ["b", "c"], "{ if (b) { return c } }"⟩ := by decide +kernel
  rw [isLast, Option.map_some, Option.some.injEq] at found
  obtain ⟨params, body⟩ := kept.mpr again
  refine ⟨record, held, params.trans ?_, body.trans ?_⟩
  · exact congrArg FunctionFind.params found
  · exact congrArg FunctionFind.body found

/-- A name that is too far from its word `function` loses the parameters and the body. -/
theorem not_kept_distantName :
    let content := "function" ++ String.ofList (List.replicate 57 ' ') ++ "f(a) { return a; }"
    let text := content.toList
    "f" ∈ (declared text).map FunctionFind.name ∧ "f" ∉ found arrowBinding text ∧
      (∀ bare ∈ bareMethods text, bare.value = "f" →
        ∃ hit ∈ declarations text, bare.before.length = nameOffset text hit) ∧
      (lastDeclaration? text "f").map Declaration.find = some ⟨"f", ["a"], "{ return a; }"⟩ ∧
      (build (.ofList [("a.js", content)])).functions.get? "a.js:f" =
        some { name := "f", path := "a.js" } := by
  decide +kernel

/-- So does a name behind a longer word that ends with `function`. -/
example :
    (build (.ofList [("a.js", "dysfunction f(a) { return a; }")])).functions.get? "a.js:f" =
      some { name := "f", path := "a.js" } := by
  decide +kernel

end CodeBrief.Index
