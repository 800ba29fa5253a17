/-
**What is remembered about a query.**

A memory cuts its log of conversations after every exchange, and looks for similar queries from the
end of the log back until it has found enough. What it tells about a query is still told by the
whole history of the memory.

* `logged` — the log that a history leaves behind.
* `NewestFirst` — the texts of a log that satisfy a condition, each at the place where it was said
  last, from the end of the log back.
* `noteSimilar_eq`, `similarFrom_eq` — one step of the search, and the whole search: the queries
  found at any time are the first occurrences of the related ones that have been looked at.
* `recollect_run` — what is remembered, for any history.
-/

import CodeBrief.Proofs.FirstOccurrences
import CodeBrief.Proofs.Session.MemoryHistory

namespace CodeBrief.Memory

/-! ### The log -/

/-- The conversations that a memory with some limits holds after the calls of a history. -/
def logged (limits : MemoryLimits) (calls : List Call) : List Conversation :=
  lastOf limits.conversations ((exchanges calls).map conversationOf)

theorem conversations_run (limits : MemoryLimits) (calls : List Call) :
    ((withLimits limits).run calls).conversations = logged limits calls := by
  have remembers := remembers_run limits calls
  refine eq_lastOf_iff.mpr ⟨remembers.conversations, ?_⟩
  rw [List.length_map]
  exact remembers.conversationCount

/-! ### The search -/

/-- The queries among `earlier` that are related to `query`, each at its first place. -/
def similarAmong (query : String) (earlier : List String) : List String :=
  (earlier.filter fun text => areRelated text query).eraseDups

/-- **One step of the search.** -/
theorem noteSimilar_eq (query : String) (seen : List String) (text : String) :
    noteSimilar query (similarAmong query seen) text = similarAmong query (seen ++ [text]) := by
  unfold noteSimilar
  by_cases related : areRelated text query = true
  · have last : [text].filter (fun text => areRelated text query) = [text] := by simp [related]
    have together : similarAmong query (seen ++ [text]) =
        if text ∈ seen.filter fun text => areRelated text query then similarAmong query seen
        else similarAmong query seen ++ [text] := by
      unfold similarAmong
      rw [List.filter_append, last, eraseDups_concat]
    have known : (similarAmong query seen).contains text = true ↔
        text ∈ seen.filter fun text => areRelated text query := by
      rw [List.contains_iff_mem, similarAmong, List.mem_eraseDups]
    rw [together]
    by_cases old : text ∈ seen.filter fun text => areRelated text query
    · rw [if_pos old, known.mpr old]
      rfl
    · rw [if_neg old, Bool.eq_false_iff.mpr (mt known.mp old), related]
      rfl
  · have last : [text].filter (fun text => areRelated text query) = [] := by simp [related]
    have same : similarAmong query (seen ++ [text]) = similarAmong query seen := by
      unfold similarAmong
      rw [List.filter_append, last, List.append_nil]
    rw [same, Bool.eq_false_iff.mpr related, Bool.and_false]
    rfl

theorem similarAmong_prefix (query : String) (seen further : List String) :
    similarAmong query seen <+: similarAmong query (seen ++ further) := by
  unfold similarAmong
  rw [List.filter_append]
  exact eraseDups_prefix_append _ _

/-- **The whole search**, from any of its states on: it ends early just if what it has found is all
that is asked for. -/
theorem similarFrom_eq (limit : Nat) (query : String) (further seen : List String)
    (few : (similarAmong query seen).length < limit) :
    similarFrom limit query (similarAmong query seen) further =
      (similarAmong query (seen ++ further)).take limit := by
  induction further generalizing seen with
  | nil => rw [similarFrom, List.append_nil, List.take_of_length_le few.le]
  | cons text further ih =>
    have step := noteSimilar_eq query seen text
    have grows : (similarAmong query (seen ++ [text])).length ≤
        (similarAmong query seen).length + 1 := by
      rw [← step, noteSimilar]
      split <;> simp
    rw [similarFrom, step, ← List.singleton_append (l := further), ← List.append_assoc]
    split
    · -- What is found further on would be cut off.
      rename_i enough
      obtain ⟨more, same⟩ := similarAmong_prefix query (seen ++ [text]) further
      rw [← same, List.take_left' (beq_iff_eq.mp enough)]
    · rename_i fewer
      have notAll : (similarAmong query (seen ++ [text])).length ≠ limit :=
        fun equal => fewer (beq_iff_eq.mpr equal)
      exact ih (seen ++ [text]) (by omega)

/-! ### From the end of a log back -/

/-- The texts of a log that satisfy a condition, each once, at the place where it was said last,
from the end of the log back. -/
structure NewestFirst (log : List String) (keep : String → Prop) (texts : List String) : Prop where
  /-- No text is listed twice. -/
  distinct : texts.Nodup
  /-- They are those that satisfy the condition. -/
  exact : ∀ text, text ∈ texts ↔ text ∈ log ∧ keep text
  /-- A text was said after all that stand behind it in the list were said for the last time. -/
  order : texts.Pairwise fun newer older =>
    ∃ before after, log = before ++ newer :: after ∧ older ∉ after

theorem newestFirst_similarAmong (query : String) (log : List String) :
    NewestFirst log (fun text => areRelated text query = true)
      (similarAmong query log.reverse) where
  distinct := nodup_eraseDups _
  exact := by
    intro text
    rw [similarAmong, List.mem_eraseDups, List.mem_filter, List.mem_reverse]
  order := by
    rw [similarAmong, eraseDups_filter]
    refine ((pairwise_eraseDups log.reverse).imp ?_).filter _
    rintro newer older ⟨before, after, said, absent⟩
    refine ⟨after.reverse, before.reverse, ?_, mt List.mem_reverse.mp absent⟩
    rw [← List.reverse_reverse log, said]
    simp

/-! ### What is remembered -/

/-- What a memory with some limits remembers about `query` after the calls of a history. -/
structure Recalls (limits : MemoryLimits) (calls : List Call) (query : String)
    (recollection : Recollection) : Prop where
  /-- The related ones among the last five conversations of the log, in its order. -/
  conversations : recollection.conversations =
    (lastOf 5 (logged limits calls)).filter fun entry => areRelated entry.query query
  /-- The first three related decisions of the whole history, in its order. -/
  decisions : recollection.decisions =
    ((((exchanges calls).filter fun entry => ShowsDecision entry.2).map decisionOf).filter
      fun entry => areRelated entry.description query).take 3
  /-- The first three related queries of the log, read from its end back. -/
  queries : ∃ similar, recollection.queries = similar.take 3 ∧
    NewestFirst ((logged limits calls).map Conversation.query)
      (fun earlier => areRelated earlier query = true) similar

/-- **What is remembered about a query is told by the history**, whatever the limits of the memory
and whatever has been done with it since it was empty. -/
theorem recollect_run (limits : MemoryLimits) (calls : List Call) (query : String) :
    Recalls limits calls query (((withLimits limits).run calls).recollect query) where
  conversations := by rw [recollect, conversations_run]
  decisions := by rw [recollect, (remembers_run limits calls).decisions]
  queries := by
    refine ⟨similarAmong query ((logged limits calls).map Conversation.query).reverse, ?_,
      newestFirst_similarAmong query _⟩
    have search := similarFrom_eq 3 query
      ((logged limits calls).map Conversation.query).reverse [] (Nat.succ_pos 2)
    rw [List.nil_append] at search
    rw [recollect, conversations_run, List.map_reverse]
    exact search

end CodeBrief.Memory
