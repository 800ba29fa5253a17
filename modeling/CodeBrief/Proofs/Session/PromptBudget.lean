/-
**What is measured bounds the prompt.**

The budget of a brief is compared with the estimate of its payload, and not with one of its prompt.
As the prompt is no longer than the payload, a brief that is not over budget has a prompt within the
budget.

* `length_confidence_le` — the confidences of patterns are short.
* `frame_withBudget`, `tokens_withBudget_le` — what giving a budget to a brief leaves alone, and
  what the flag of the result says.
* `prompt_withinBudget` — every brief that a session gives.
-/

import CodeBrief.Proofs.Brief.PromptSize
import CodeBrief.Proofs.Session.Assembly

namespace CodeBrief

/-- Patterns are found with a few hundredths only, each of which takes four characters. -/
theorem length_confidence_le (layout : Structure) (metadata : Metadata) :
    ∀ pattern ∈ detectPatterns layout metadata,
      (Binary64.fixed 2 pattern.confidence).length ≤ 4 := by
  intro pattern member
  have short : ∀ count ∈ [80, 70, 90, 85],
      (Binary64.fixed 2 (hundredths count)).length ≤ 4 := by decide
  unfold detectPatterns at member
  rw [List.mem_append, List.mem_append, List.mem_append] at member
  rcases member with ((models | services) | components) | routes
  · split at models
    · rw [List.mem_singleton.mp models]
      exact short 80 (by decide)
    · exact absurd models List.not_mem_nil
  · split at services
    · rw [List.mem_singleton.mp services]
      exact short 70 (by decide)
    · exact absurd services List.not_mem_nil
  · split at components
    · split at components
      · rw [List.mem_singleton.mp components]
        exact short 90 (by decide)
      · exact absurd components List.not_mem_nil
    · exact absurd components List.not_mem_nil
  · split at routes
    · rw [List.mem_singleton.mp routes]
      exact short 85 (by decide)
    · exact absurd routes List.not_mem_nil

namespace Brief

/-- Giving a budget to a brief changes its files, functions, classes, dependencies and the figures
about its size at most. -/
theorem frame_withBudget {brief given : Brief} {budget : Int}
    (sized : brief.withBudget budget = .ok given) :
    ∃ files functions classes dependencies estimatedTokens overBudget compressionSteps,
      given =
        { brief with
          files, functions, classes, dependencies, tokenBudget := budget, estimatedTokens,
          overBudget, compressionSteps } := by
  obtain ⟨-, ⟨-, rfl⟩ | ⟨-, made⟩⟩ := withBudget_eq_ok_iff.mp sized
  · exact ⟨_, _, _, _, _, _, _, rfl⟩
  · obtain rfl := eq_shrunk_of_compress made
    unfold shrunk afterSteps
    obtain ⟨files, functions, classes, dependencies, same⟩ := frame_afterAll
      (CompressionStep.all.take ((brief.measured budget).stepsNeeded budget))
      (brief.measured budget)
    rw [same]
    exact ⟨files, functions, classes, dependencies, _, _, _, rfl⟩

/-- **A brief that is not over budget is within it.** -/
theorem tokens_withBudget_le {brief given : Brief} {budget : Int}
    (sized : brief.withBudget budget = .ok given) (notOver : given.overBudget = false) :
    (given.tokens : Int) ≤ given.tokenBudget := by
  have kept : given.tokenBudget = budget := by
    obtain ⟨_, _, _, _, _, _, _, frame⟩ := frame_withBudget sized
    rw [frame]
  rw [kept]
  obtain ⟨-, ⟨within, rfl⟩ | ⟨-, made⟩⟩ := withBudget_eq_ok_iff.mp sized
  · exact within
  · obtain rfl := eq_shrunk_of_compress made
    exact Int.not_lt.mp (of_decide_eq_false notOver)

end Brief

namespace Session

variable {session : Session} {query : String} {options : BriefOptions} {brief : Brief}

/-- The prompts of a session whose snapshot comes from one analysis. -/
theorem length_prompt_of_assemble (held : session.HoldsContents)
    (given : session.assemble query options = .ok brief) :
    brief.prompt.toList.length ≤ brief.payload.size := by
  have distinct := (wellFormed_of_assemble held given).1.paths
  obtain ⟨_, paths, files, read⟩ := held
  obtain ⟨working, project, -, -, sized⟩ := assemble_eq_ok_iff.mp given
  have patterns : brief.patterns = session.snapshot.patterns := by
    obtain ⟨_, _, _, _, _, _, _, frame⟩ := Brief.frame_withBudget sized
    rw [frame]
    rfl
  refine Brief.length_prompt_le distinct ?_
  rw [patterns, Snapshot.patterns_ofContents read]
  exact length_confidence_le _ _

/-- **The budget bounds the prompt as well**: at any point of any history, the prompt of a brief
that is given has no more characters than its payload, so that its estimate is within the budget
unless the brief is over budget. -/
theorem prompt_withinBudget {settings : Settings} {operations : List Operation}
    (given : (((withSettings settings).run operations).brief query options).2 = .ok brief) :
    brief.prompt.length ≤ brief.payloadText.length ∧
      (brief.overBudget = false → (tokensOf brief.prompt.toList : Int) ≤ brief.tokenBudget) := by
  have held := (holdsContents_run (holdsContents_withSettings settings) operations).focusOn options
  have shorter := length_prompt_of_assemble held given
  constructor
  · rw [← String.length_toList, ← String.length_toList, Brief.payloadText, Json.Style.write,
      String.toList_ofList]
    exact shorter
  · intro notOver
    have fewer : tokensOf brief.prompt.toList ≤ brief.tokens := tokensOfLength_mono shorter
    have within : (brief.tokens : Int) ≤ brief.tokenBudget := by
      obtain ⟨working, project, -, -, sized⟩ := assemble_eq_ok_iff.mp given
      exact Brief.tokens_withBudget_le sized notOver
    omega

theorem prompt_withinBudget_smallHistory :
    ∃ brief, (((withSettings {}).run smallHistory).brief "fix login" { maxTokens := some 225 }).2 =
        .ok brief ∧
      brief.overBudget = false ∧ brief.prompt.length ≤ brief.payloadText.length ∧
      (tokensOf brief.prompt.toList : Int) ≤ brief.tokenBudget := by
  obtain ⟨brief, given, -, -, notOver⟩ := brief_smallHistory
  have bounds := prompt_withinBudget given
  exact ⟨brief, given, notOver, bounds.1, bounds.2 notOver⟩

end Session

end CodeBrief
