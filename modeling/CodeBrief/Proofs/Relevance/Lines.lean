/-
**What a further line scores.**

A word of a query that is put between two lines of a file, on a line of its own, adds to the score
of the file what it would score alone: its occurrences cannot run into the lines around it, and it
does not hide any of theirs.

* `lower_word` — lower-casing a word of a query changes nothing.
* `occurrences_lines` — the occurrences of the words of a query are counted line by line.
* `occurrenceScore_insertLine`, `fileScore_insertLine` — what they score in a text with a further
  line, and the score of the file.
-/

import CodeBrief.Proofs.ImportGraph.Importers
import CodeBrief.Proofs.Text.Lowering
import CodeBrief.Proofs.Text.Occurrences
import CodeBrief.Proofs.Text.Pieces
import CodeBrief.Query.Relevance
import Mathlib.Algebra.BigOperators.Ring.List

namespace CodeBrief.Relevance

/-- The words whose occurrences count. -/
def longWords (words : List String) : List String :=
  words.filter fun word => leastWordLength ≤ word.length

/-- The occurrences in `text` of the words that count, a word as often as it is listed. -/
def occurrences (words : List String) (text : List Char) : Nat :=
  ((longWords words).map fun word => Text.countOf word.toList text).sum

theorem occurrenceScore_eq (words : List String) (content : String) :
    occurrenceScore words content = 2 * occurrences words (Text.lower content.toList) := by
  unfold occurrenceScore occurrences longWords occurrenceWeight
  rw [← List.sum_eq_foldr, List.sum_map_mul_right, Nat.mul_comm]

/-! ### The words of a query -/

section Words

variable {query word : String} (member : word ∈ queryWords query)
include member

theorem toList_mem_words : word.toList ∈ Text.words (Text.lower query.toList) := by
  obtain ⟨letters, listed, rfl⟩ := List.mem_map.mp member
  rwa [String.toList_ofList]

theorem newLine_not_mem_word : '\n' ∉ word.toList := by
  intro inside
  have piece := (List.mem_filter.mp (toList_mem_words member)).1
  exact absurd (Text.not_separates_of_mem_pieces piece _ inside) (by decide)

theorem word_ne_nil : word.toList ≠ [] := by
  have kept := (List.mem_filter.mp (toList_mem_words member)).2
  simpa using kept

/-- **Lower-casing a word of a query changes nothing.** -/
theorem lower_word : Text.lower word.toList = word.toList :=
  Text.lower_eq_self_of_subset
    (Text.subset_of_mem_pieces (List.mem_filter.mp (toList_mem_words member)).1)

end Words

/-! ### A further line -/

theorem endsContext_newLine : Text.EndsContext '\n' := by
  decide +kernel

theorem isLowered_newLine : Text.IsLowered '\n' := by
  decide +kernel

/-- Two lines are lower-cased one by one. -/
theorem lower_lines (above below : String) :
    Text.lower (above ++ "\n" ++ below).toList =
      Text.lower above.toList ++ '\n' :: Text.lower below.toList := by
  rw [String.toList_append, String.toList_append, List.append_assoc]
  exact Text.lower_append_cons endsContext_newLine isLowered_newLine _ _

/-- **The occurrences of words that have no line break**, line by line. -/
theorem occurrences_lines {query : String} (left right : List Char) :
    occurrences (queryWords query) (left ++ '\n' :: right) =
      occurrences (queryWords query) left + occurrences (queryWords query) right := by
  unfold occurrences
  rw [← List.sum_map_add]
  congr 1
  refine List.map_congr_left fun word long => ?_
  have member := (List.mem_filter.mp long).1
  exact Text.countOf_append_cons (word_ne_nil member) (newLine_not_mem_word member) left right

section FurtherLine

variable {query word : String} (member : word ∈ queryWords query)
include member

theorem occurrenceScore_insertLine (above below : String) :
    occurrenceScore (queryWords query) (above ++ "\n" ++ word ++ "\n" ++ below) =
      occurrenceScore (queryWords query) (above ++ "\n" ++ below) +
        2 * occurrences (queryWords query) word.toList := by
  rw [occurrenceScore_eq, occurrenceScore_eq, lower_lines (above ++ "\n" ++ word) below,
    lower_lines above word, lower_lines above below, lower_word member, occurrences_lines,
    occurrences_lines, occurrences_lines]
  omega

/-- A word that counts occurs in itself. -/
theorem occurrences_word_pos (long : leastWordLength ≤ word.length) :
    1 ≤ occurrences (queryWords query) word.toList := by
  have listed : word ∈ longWords (queryWords query) :=
    List.mem_filter.mpr ⟨member, decide_eq_true long⟩
  exact (Text.countOf_self_pos (word_ne_nil member)).trans
    (List.le_sum_of_mem (List.mem_map_of_mem listed))

/-- **A word of the query on a further line** adds to the score of a file twice the occurrences in
it of all words of the query that count, and so at least two. -/
theorem fileScore_insertLine (long : leastWordLength ≤ word.length) (graph : ImportGraph)
    (recent : List String) (intent : Intent) (path above below : String) :
    let words := queryWords query
    let before := fileScore graph recent words intent path (above ++ "\n" ++ below)
    let after := fileScore graph recent words intent path (above ++ "\n" ++ word ++ "\n" ++ below)
    after = before + 2 * ((words.filter fun other => leastWordLength ≤ other.length).map
        fun other => Text.countOf other.toList word.toList).sum ∧
      before + 2 ≤ after := by
  intro words before after
  have inserted : occurrenceScore words (above ++ "\n" ++ word ++ "\n" ++ below) =
      occurrenceScore words (above ++ "\n" ++ below) + 2 * occurrences words word.toList :=
    occurrenceScore_insertLine member above below
  have own : 1 ≤ occurrences words word.toList := occurrences_word_pos member long
  have added : after = before + 2 * occurrences words word.toList := by
    show fileScore _ _ _ _ _ _ = fileScore _ _ _ _ _ _ + _
    unfold fileScore
    rw [inserted]
    omega
  exact ⟨added, by omega⟩

end FurtherLine

/-- Words of the query that are listed twice and contain one another. -/
theorem fileScore_insertLine_overlappingWords :
    let words := queryWords "Token tokentoken token"
    let score := fileScore (.build ∅) [] words {} "a.js"
    "tokentoken" ∈ words ∧ leastWordLength ≤ "tokentoken".length ∧
      score ("use TOKENtoken" ++ "\n" ++ "token") = 14 ∧
      score ("use TOKENtoken" ++ "\n" ++ "tokentoken" ++ "\n" ++ "token") = 24 := by
  intro words score
  have member : "tokentoken" ∈ words := by decide +kernel
  have before : score ("use TOKENtoken" ++ "\n" ++ "token") = 14 := by decide +kernel
  have occur : ((words.filter fun other => leastWordLength ≤ other.length).map
      fun other => Text.countOf other.toList "tokentoken".toList).sum = 5 := by decide +kernel
  have after := (fileScore_insertLine member (by decide) (.build ∅) [] {} "a.js" "use TOKENtoken"
    "token").1
  refine ⟨member, by decide, before, ?_⟩
  rw [occur] at after
  exact after.trans (congrArg (· + 2 * 5) before)

end CodeBrief.Relevance
