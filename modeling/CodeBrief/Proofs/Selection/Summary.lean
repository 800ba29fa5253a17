/-
**A text cut down.**

`summarizeChars` keeps a text that fits and cuts the middle out of one that does not.

* `summarizeChars_of_le` — a text that fits is kept.
* `summarizeChars_of_lt` — of any other text two ends of equal length are kept, around a marker that
  tells the length of what stands between them.
* `tokensOf_summarizeChars` — what is left takes the tokens that it was cut down to and those of
  the marker.
* `summarize_cutsMiddle` — all this for texts, with the marker spelt out.
-/

import CodeBrief.Brief.Selection
import CodeBrief.Proofs.Text.Spelling

namespace CodeBrief

/-- The marker has a frame of thirty-three characters around the number. -/
theorem length_omissionMarker {omitted : Nat} (positive : 0 < omitted) :
    (omissionMarker omitted).length = 33 + (Nat.digits 10 omitted).length := by
  unfold omissionMarker
  rw [List.length_append, List.length_append, Text.length_spell positive]
  show 7 + _ + 26 = _
  omega

theorem summarizeChars_of_le {content : List Char} {budget : Int}
    (fits : content.length ≤ 4 * budget.toNat) : summarizeChars content budget = content := by
  unfold summarizeChars charsPerToken
  rw [if_pos (by omega)]

/-- **The middle of a text that does not fit is cut out.** -/
theorem summarizeChars_of_lt {content : List Char} {budget : Int}
    (long : 4 * budget.toNat < content.length) :
    ∃ head middle tail, content = head ++ middle ++ tail ∧ 0 < middle.length ∧
      head.length = 2 * budget.toNat ∧ tail.length = 2 * budget.toNat ∧
      summarizeChars content budget = head ++ omissionMarker middle.length ++ tail := by
  have half : budget.toNat * charsPerToken / 2 = 2 * budget.toNat := by
    unfold charsPerToken
    omega
  have cut : summarizeChars content budget = content.take (2 * budget.toNat) ++
      omissionMarker (content.length - 2 * (2 * budget.toNat)) ++
        content.drop (content.length - 2 * budget.toNat) := by
    unfold summarizeChars
    dsimp only
    rw [if_neg (by unfold charsPerToken; omega), half]
  have middle : ((content.drop (2 * budget.toNat)).take
      (content.length - 2 * (2 * budget.toNat))).length =
        content.length - 2 * (2 * budget.toNat) := by
    rw [List.length_take, List.length_drop]
    omega
  have tail : content.drop (content.length - 2 * budget.toNat) =
      (content.drop (2 * budget.toNat)).drop (content.length - 2 * (2 * budget.toNat)) := by
    rw [List.drop_drop]
    congr 1
    omega
  refine ⟨_, _, _, ?_, ?_, ?_, ?_, by rw [middle]; exact cut⟩
  · rw [tail, List.append_assoc, List.take_append_drop, List.take_append_drop]
  · omega
  · rw [List.length_take]
    omega
  · rw [List.length_drop]
    omega

/-- Whole tokens in front of a text count one by one. -/
theorem tokensOfLength_add (tokens length : Nat) :
    tokensOfLength (4 * tokens + length) = tokens + tokensOfLength length := by
  unfold tokensOfLength charsPerToken
  omega

/-- A text that takes more than its budget takes all of it once it is cut down, and the tokens of
the marker on top. -/
theorem tokensOf_summarizeChars {content : List Char} {budget : Int} (nonneg : 0 ≤ budget)
    (long : budget < tokensOf content) :
    ∃ head middle tail, content = head ++ middle ++ tail ∧
      summarizeChars content budget = head ++ omissionMarker middle.length ++ tail ∧
      (tokensOf (summarizeChars content budget) : Int) =
        budget + tokensOfLength (33 + (Nat.digits 10 middle.length).length) := by
  have longer : 4 * budget.toNat < content.length := by
    unfold tokensOf tokensOfLength charsPerToken at long
    omega
  obtain ⟨head, middle, tail, whole, positive, headLength, tailLength, cut⟩ :=
    summarizeChars_of_lt longer
  refine ⟨head, middle, tail, whole, cut, ?_⟩
  have length : (head ++ omissionMarker middle.length ++ tail).length =
      4 * budget.toNat + (33 + (Nat.digits 10 middle.length).length) := by
    rw [List.length_append, List.length_append, length_omissionMarker positive, headLength,
      tailLength]
    omega
  rw [cut, tokensOf, length, tokensOfLength_add]
  omega

/-! ### Texts -/

theorem ofList_omissionMarker (omitted : Nat) :
    String.ofList (omissionMarker omitted) =
      "\n\n[... " ++ toString omitted ++ " characters omitted ...]\n\n" := by
  unfold omissionMarker
  rw [String.ofList_append, String.ofList_append, Text.ofList_spell, String.ofList_toList,
    String.ofList_toList]

/-- **Cutting a text down cuts exactly its middle out.** A budget gives room for four characters a
token, and a negative one for none. A text that has room is kept. Of any other text the two ends are
kept, half of the room each, and a marker between them tells how many characters have stood there, of
which there is at least one. -/
theorem summarize_cutsMiddle (content : String) (budget : Int) :
    let room := 4 * (max 0 budget).toNat
    (content.length ≤ room ∧ summarize content budget = content) ∨
      (room < content.length ∧ ∃ head middle tail : String,
        content = head ++ middle ++ tail ∧ head.length = room / 2 ∧ tail.length = room / 2 ∧
        0 < middle.length ∧
        summarize content budget = head ++
          ("\n\n[... " ++ toString middle.length ++ " characters omitted ...]\n\n") ++ tail ∧
        (summarize content budget).length =
          room + 33 + (toString middle.length).length) := by
  intro room
  have isRoom : room = 4 * budget.toNat := by omega
  by_cases fits : content.length ≤ room
  · left
    have fits' : content.toList.length ≤ 4 * budget.toNat := by
      rw [String.length_toList, ← isRoom]
      exact fits
    refine ⟨fits, ?_⟩
    rw [summarize, summarizeChars_of_le fits', String.ofList_toList]
  · right
    have long : 4 * budget.toNat < content.toList.length := by
      rw [String.length_toList, ← isRoom]
      exact Nat.not_le.mp fits
    obtain ⟨head, middle, tail, whole, positive, headLength, tailLength, cut⟩ :=
      summarizeChars_of_lt long
    have text : summarize content budget = String.ofList head ++
        ("\n\n[... " ++ toString middle.length ++ " characters omitted ...]\n\n") ++
          String.ofList tail := by
      rw [summarize, cut, String.ofList_append, String.ofList_append, ofList_omissionMarker]
    have digits : (toString middle.length).length = (Nat.digits 10 middle.length).length := by
      rw [← Text.ofList_spell, String.length_ofList, Text.length_spell positive]
    have length : (summarize content budget).length =
        head.length + (omissionMarker middle.length).length + tail.length := by
      rw [summarize, cut, String.length_ofList, List.length_append, List.length_append]
    refine ⟨Nat.not_le.mp fits, .ofList head, .ofList middle, .ofList tail, ?_, ?_, ?_, ?_, ?_, ?_⟩
    · rw [← String.ofList_append, ← String.ofList_append, ← whole, String.ofList_toList]
    · rw [String.length_ofList, headLength, isRoom]
      omega
    · rw [String.length_ofList, tailLength, isRoom]
      omega
    · rw [String.length_ofList]
      exact positive
    · rw [String.length_ofList]
      exact text
    · rw [length, length_omissionMarker positive, headLength, tailLength, isRoom,
        String.length_ofList, digits]
      omega

/-- A negative budget leaves the marker alone. -/
example : summarize "abc" (-2) = "\n\n[... 3 characters omitted ...]\n\n" := by decide +kernel

end CodeBrief
