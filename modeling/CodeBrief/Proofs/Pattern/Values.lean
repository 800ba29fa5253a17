/-
**What readers give.**

* `Gives` — whatever a reader gives has some property. Of readers one after another the last one
  counts, together with what is known of the earlier ones (`Gives.bind`, `Gives.bind_of`).
* `gives_of_mem_allMatches` — so has what a pattern took at any of its matches in a text.
* `IsWord`, `gives_word` — words, and the reader of words.
-/

import CodeBrief.Pattern.Scan
import Mathlib.Data.List.TakeWhile

namespace CodeBrief.Pattern

/-! ### Readers -/

/-- Whatever a reader gives satisfies `holds`. -/
def Gives {α : Type} (reader : Reader α) (holds : α → Prop) : Prop :=
  ∀ text value after, reader text = some (value, after) → holds value

section Readers

variable {α β : Type} {holds : α → Prop} {holds' : β → Prop}

theorem gives_pure {value : α} (satisfies : holds value) : Gives (pure value) holds := by
  intro text given after taken
  cases taken
  exact satisfies

theorem Gives.bind_of {first : Reader α} {second : α → Reader β} (gives : Gives first holds)
    (gives' : ∀ value, holds value → Gives (second value) holds') :
    Gives (first >>= second) holds' := by
  intro text value after taken
  obtain ⟨⟨middle, rest⟩, firstTaken, secondTaken⟩ := Option.bind_eq_some_iff.mp taken
  exact gives' middle (gives _ _ _ firstTaken) _ _ _ secondTaken

theorem Gives.bind {first : Reader α} {second : α → Reader β}
    (gives' : ∀ value, Gives (second value) holds') : Gives (first >>= second) holds' := by
  have anything : Gives first fun _ => True := fun _ _ _ _ => trivial
  exact anything.bind_of fun value _ => gives' value

end Readers

/-! ### Matches -/

section Matches

variable {α : Type} {holds : α → Prop} {find : Finder α}

theorem gives_of_mem_matchesFrom (gives : ∀ before, Gives (find before) holds)
    {before : List Char} {skip : Nat} {text : List Char} {hit : Match α}
    (member : hit ∈ matchesFrom find before skip text) : holds hit.value := by
  fun_induction matchesFrom find before skip text with
  | case1 before skip => exact absurd member List.not_mem_nil
  | case2 before skip c rest ih => exact ih member
  | case3 before c rest value after matched ih =>
    rcases List.mem_cons.mp member with rfl | later
    · exact gives _ _ _ _ matched
    · exact ih later
  | case4 before c rest unmatched ih => exact ih member

/-- **What a pattern took** at a match is something that it gives. -/
theorem gives_of_mem_allMatches (gives : ∀ before, Gives (find before) holds) {text : List Char}
    {hit : Match α} (member : hit ∈ allMatches find text) : holds hit.value :=
  gives_of_mem_matchesFrom gives member

theorem gives_of_mem_found {reader : Reader α} (gives : Gives reader holds) {text : List Char}
    {value : α} (member : value ∈ found reader text) : holds value := by
  obtain ⟨hit, matched, rfl⟩ := List.mem_map.mp member
  exact gives_of_mem_allMatches (fun _ => gives) matched

theorem gives_atWordStart {reader : Reader α} (gives : Gives reader holds) (before : List Char) :
    Gives (atWordStart reader before) holds := by
  unfold atWordStart
  split
  · exact gives
  · intro text value after taken
    cases taken

end Matches

/-! ### Words -/

/-- A text of word characters, of which there is at least one. -/
def IsWord (name : String) : Prop :=
  name.toList ≠ [] ∧ ∀ c ∈ name.toList, Text.isWord c = true

instance : DecidablePred IsWord := fun name =>
  decidable_of_iff (name.toList ≠ [] ∧ name.toList.all Text.isWord = true)
    (and_congr_right fun _ => List.all_eq_true)

theorem gives_runOf (least : Nat) (test : Char → Bool) :
    Gives (runOf least test) fun taken => least ≤ taken.length ∧ ∀ c ∈ taken, test c = true := by
  intro text value after taken
  unfold runOf at taken
  dsimp only at taken
  split at taken
  · cases taken
  · rename_i enough
    cases taken
    exact ⟨Nat.not_lt.mp enough, fun c member => List.mem_takeWhile_imp member⟩

theorem gives_word : Gives word IsWord := by
  refine (gives_runOf 1 Text.isWord).bind_of fun taken ⟨enough, allWord⟩ => gives_pure ?_
  unfold IsWord
  rw [String.toList_ofList]
  exact ⟨List.ne_nil_of_length_pos enough, allWord⟩

end CodeBrief.Pattern
