/-
**What moves a health score, and the order of advice.**

A report is worth fifty points, ten more for each strength, and less for each weakness and each
risk; its score is what is left of these between nought and a hundred. Holding the points between
two bounds keeps their order, so that all that is said of the score is said of the points.

* `healthPoints_congr` — the points do not depend on the order of what they count.
* `healthPoints_insertStrength`, `healthPoints_insertWeakness`, `healthPoints_insertRisk` — what a
  further item is worth, wherever it is inserted.
* `pairwise_priorityRank` — the most pressing advice first, then the less, then the least pressing
  one is advice in order.
* `healthReport_lawful` — the laws of the score, and what is recommended.
-/

import CodeBrief.Project.Health
import CodeBrief.Proofs.Ranking
import Mathlib.Algebra.BigOperators.Group.List.Basic
import Mathlib.Algebra.Order.Group.Int
import Mathlib.Algebra.Ring.Int.Defs

namespace CodeBrief

/-! ### The score -/

/-- The points of a report, of which the score is the part between nought and a hundred. -/
def healthPoints (report : HealthReport) : Int :=
  50 + report.strengths.length * 10 -
    (report.weaknesses.map fun item => weaknessPenalty item.impact).sum -
    (report.risks.map fun item => riskPenalty item.severity).sum

theorem healthScore_eq (report : HealthReport) :
    healthScore report = max 0 (min 100 (healthPoints report)) := rfl

theorem healthScore_bounds (report : HealthReport) :
    0 ≤ healthScore report ∧ healthScore report ≤ 100 := by
  rw [healthScore_eq]
  omega

/-- More points never make a lower score. -/
theorem healthScore_mono {report other : HealthReport}
    (fewer : healthPoints report ≤ healthPoints other) : healthScore report ≤ healthScore other := by
  rw [healthScore_eq, healthScore_eq]
  omega

theorem weaknessPenalty_nonneg (impact : Option Severity) : 0 ≤ weaknessPenalty impact := by
  rcases impact with _ | _ | _ | _ <;> decide

theorem riskPenalty_nonneg (severity : Option Severity) : 0 ≤ riskPenalty severity := by
  rcases severity with _ | _ | _ | _ <;> decide

/-- **The points do not depend on the order** of what they count. -/
theorem healthPoints_congr {report other : HealthReport}
    (strengths : report.strengths.Perm other.strengths)
    (weaknesses : report.weaknesses.Perm other.weaknesses)
    (risks : report.risks.Perm other.risks) : healthPoints report = healthPoints other := by
  unfold healthPoints
  rw [strengths.length_eq, (weaknesses.map _).sum_eq, (risks.map _).sum_eq]

section Insertion

variable (report : HealthReport) (place : Nat) (item : HealthItem)

/-- A further item takes nothing from what the items are worth. -/
theorem sum_le_sum_insertIdx {value : HealthItem → Int} (nonneg : ∀ item, 0 ≤ value item)
    (items : List HealthItem) :
    (items.map value).sum ≤ ((items.insertIdx place item).map value).sum := by
  rcases Nat.lt_or_ge items.length place with beyond | within
  · rw [List.insertIdx_of_length_lt beyond]
  · have further := ((List.perm_insertIdx item items within).map value).sum_eq
    rw [List.map_cons, List.sum_cons] at further
    have own := nonneg item
    omega

theorem healthPoints_insertStrength :
    healthPoints report ≤
      healthPoints { report with strengths := report.strengths.insertIdx place item } := by
  have more : report.strengths.length ≤ (report.strengths.insertIdx place item).length :=
    List.length_le_length_insertIdx
  unfold healthPoints
  dsimp only
  omega

theorem healthPoints_insertWeakness :
    healthPoints { report with weaknesses := report.weaknesses.insertIdx place item } ≤
      healthPoints report := by
  have more := sum_le_sum_insertIdx place item
    (fun item => weaknessPenalty_nonneg item.impact) report.weaknesses
  unfold healthPoints
  dsimp only
  omega

theorem healthPoints_insertRisk :
    healthPoints { report with risks := report.risks.insertIdx place item } ≤
      healthPoints report := by
  have more := sum_le_sum_insertIdx place item
    (fun item => riskPenalty_nonneg item.severity) report.risks
  unfold healthPoints
  dsimp only
  omega

end Insertion

/-! ### Advice -/

/-- Advice of one level is in order as it stands. -/
theorem pairwise_of_level {level : Severity} {part : List Recommendation}
    (same : ∀ advice ∈ part, advice.priority = level) : part.Pairwise fun left right =>
      decide (priorityRank left.priority ≤ priorityRank right.priority) = true := by
  refine List.pairwise_of_forall_mem_list fun left first right second => ?_
  rw [same left first, same right second]
  exact decide_eq_true (le_refl _)

/-- **Advice of one level after another is in order**, the most pressing first. -/
theorem pairwise_priorityRank {pressing middling minor : List Recommendation}
    (high : ∀ advice ∈ pressing, advice.priority = .high)
    (medium : ∀ advice ∈ middling, advice.priority = .medium)
    (low : ∀ advice ∈ minor, advice.priority = .low) :
    (pressing ++ middling ++ minor).Pairwise fun left right =>
      decide (priorityRank left.priority ≤ priorityRank right.priority) = true := by
  refine List.pairwise_append.mpr ⟨List.pairwise_append.mpr ⟨pairwise_of_level high,
    pairwise_of_level medium, ?_⟩, pairwise_of_level low, ?_⟩
  · intro left first right second
    rw [high left first, medium right second]
    decide
  · intro left first right second
    rw [low right second]
    rcases List.mem_append.mp first with first | first
    · rw [high left first]
      decide
    · rw [medium left first]
      decide

theorem priority_of_mem_map {advise : HealthItem → Recommendation} {level : Severity}
    (same : ∀ item, (advise item).priority = level) (items : List HealthItem) :
    ∀ advice ∈ items.map advise, advice.priority = level := by
  intro advice member
  obtain ⟨item, -, rfl⟩ := List.mem_map.mp member
  exact same item

theorem priority_riskAdvice (item : HealthItem) : (riskAdvice item).priority = .high := rfl

theorem priority_weaknessAdvice (item : HealthItem) : (weaknessAdvice item).priority = .medium :=
  rfl

theorem priority_opportunityAdvice (item : HealthItem) :
    (opportunityAdvice item).priority = .low := rfl

theorem recommendations_eq (report : HealthReport) :
    recommendations report =
      (report.risks.filter fun item => item.severity = some .high).map riskAdvice ++
      (report.weaknesses.filter fun item => item.impact = some .high).map weaknessAdvice ++
      (report.opportunities.take 3).map opportunityAdvice :=
  sortBy_eq_self (pairwise_priorityRank (priority_of_mem_map priority_riskAdvice _)
    (priority_of_mem_map priority_weaknessAdvice _)
    (priority_of_mem_map priority_opportunityAdvice _))

/-! ### The laws -/

/-- **The laws of a health report.** Its score lies between nought and a hundred and does not depend
on the order of its lists; a further strength never lowers it, and a further weakness or risk never
raises it, whatever their level and wherever they are inserted. What is recommended is the advice on
each grave risk, then that on each weakness of great impact, then that on each of the first three
opportunities, in the order of the report: sorting by priority moves none of it. -/
theorem healthReport_lawful (report : HealthReport) :
    (0 ≤ healthScore report ∧ healthScore report ≤ 100) ∧
      (∀ other : HealthReport, report.strengths.Perm other.strengths →
        report.weaknesses.Perm other.weaknesses → report.risks.Perm other.risks →
          healthScore other = healthScore report) ∧
      (∀ (place : Nat) (item : HealthItem),
        healthScore report ≤
            healthScore { report with strengths := report.strengths.insertIdx place item } ∧
          healthScore { report with weaknesses := report.weaknesses.insertIdx place item } ≤
            healthScore report ∧
          healthScore { report with risks := report.risks.insertIdx place item } ≤
            healthScore report) ∧
      recommendations report =
        (report.risks.filter fun item => item.severity = some .high).map riskAdvice ++
        (report.weaknesses.filter fun item => item.impact = some .high).map weaknessAdvice ++
        (report.opportunities.take 3).map opportunityAdvice := by
  refine ⟨healthScore_bounds report, fun other strengths weaknesses risks => ?_,
    fun place item => ⟨?_, ?_, ?_⟩, recommendations_eq report⟩
  · rw [healthScore_eq, healthScore_eq, healthPoints_congr strengths weaknesses risks]
  · exact healthScore_mono (healthPoints_insertStrength report place item)
  · exact healthScore_mono (healthPoints_insertWeakness report place item)
  · exact healthScore_mono (healthPoints_insertRisk report place item)

/-- A report with items of several levels and of none, and the same items in another order. -/
theorem healthReport_lawful_severalLevels :
    let vague : HealthItem := { area := "Style", description := "Mixed" }
    let complex : HealthItem := { area := "Code", description := "Complex", impact := some .high }
    let report : HealthReport :=
      { strengths := [vague], weaknesses := [vague, complex],
        risks := [{ complex with severity := some .low }, { complex with severity := some .high }] }
    let other : HealthReport :=
      { report with weaknesses := report.weaknesses.reverse, risks := report.risks.reverse }
    report.weaknesses.Perm other.weaknesses ∧ report.risks.Perm other.risks ∧
      healthScore report = 25 ∧ healthScore other = 25 := by
  intro vague complex report other
  have weaknesses : report.weaknesses.Perm other.weaknesses := (List.reverse_perm _).symm
  have risks : report.risks.Perm other.risks := (List.reverse_perm _).symm
  have score : healthScore report = 25 := by decide
  have same := (healthReport_lawful report).2.1 other (List.Perm.refl _) weaknesses risks
  exact ⟨weaknesses, risks, score, same.trans score⟩

end CodeBrief
