/-
**Steps that never cost tokens.**

Comments, blanks and files that are left out take nothing with them that has to be written in their
place. The body of a long function is replaced by a line that tells its length and its complexity,
and this line can be as long as the spelling of the complexity. But a body is at most as complex as
it is long, and one, so that the complexities that are counted have few digits.

* `FunctionRecord.IsMeasured` — the complexity of a function is that of its body.
* `FunctionRecord.bodySize_summarize_le` — the line takes no more than a long body.
* `Index.isMeasured_of_functions_get?` — the functions of an index are measured.
* `Brief.shrinkingSteps_tokens_le` — the estimate does not grow.
-/

import CodeBrief.Proofs.Brief.Growth
import CodeBrief.Proofs.Brief.PromptSize
import CodeBrief.Proofs.Index.Keys
import CodeBrief.Proofs.Script.Complexity
import CodeBrief.Proofs.Text.Spelling

namespace CodeBrief

open Json

/-! ### The line in the place of a long body -/

/-- A number that is not negative is written by few digits. -/
theorem textSize_intText_le {n : Int} {bound : Nat} (positive : 0 ≤ n) (le : n ≤ bound) :
    textSize (intText n) ≤ bound / 10 + 3 := by
  have digits : ((Text.spell n.natAbs).map charSize).sum = (Text.spell n.natAbs).length := by
    rw [List.map_congr_left fun c member => charSize_of_isDigit (Text.isDigit_of_mem_spell member),
      List.map_const', List.sum_replicate]
    simp
  have few := Text.length_spell_le n.natAbs
  have tens : n.natAbs / 10 ≤ bound / 10 := Nat.div_le_div_right (by omega)
  rw [textSize_eq, intText, String.toList_ofList, Text.spellInt, if_neg (not_lt.mpr positive),
    digits]
  omega

namespace FunctionRecord

/-- The complexity of a function is that of its body. -/
def IsMeasured (record : FunctionRecord) : Prop :=
  record.complexity = (Script.complexity record.body : Int)

/-- **The line that stands for a long body takes no more than the body**, if the function is
measured. -/
theorem bodySize_summarize_le {record : FunctionRecord}
    (measured : longBodyLength < record.body.length → record.IsMeasured) :
    record.summarize.bodySize ≤ record.bodySize := by
  unfold summarize
  split
  case isFalse _ => exact Nat.le_refl _
  case isTrue long =>
    have body := le_textSize record.body
    rw [String.length_toList] at body
    have complexity := Script.complexityOf_le_length record.body.toList
    rw [String.length_toList] at complexity
    have counted := measured long
    unfold IsMeasured Script.complexity at counted
    have lengthDigits : textSize (intText record.body.length) ≤ record.body.length / 10 + 3 :=
      textSize_intText_le (by omega) (by omega)
    have complexityDigits : textSize (intText record.complexity) ≤
        (record.body.length + 1) / 10 + 3 := textSize_intText_le (by omega) (by omega)
    have line := textSize_append ("[Function body: " ++ intText record.body.length ++
      " chars, complexity: " ++ intText record.complexity) "]"
    have upToComplexity := textSize_append ("[Function body: " ++ intText record.body.length ++
      " chars, complexity: ") (intText record.complexity)
    have upToWords := textSize_append ("[Function body: " ++ intText record.body.length)
      " chars, complexity: "
    have upToLength := textSize_append "[Function body: " (intText record.body.length)
    have opening : textSize "[Function body: " = 18 := by decide
    have words : textSize " chars, complexity: " = 22 := by decide
    have closing : textSize "]" = 3 := by decide
    have marks : (ValueOf.bool true).size ≤ (ValueOf.bool record.summarized).size := by
      cases record.summarized <;> simp
    unfold longBodyLength at long
    unfold bodySize
    dsimp only
    omega

end FunctionRecord

/-- **The functions of an index are measured.** -/
theorem Index.isMeasured_of_functions_get? {files : Ledger String} {key : String}
    {record : FunctionRecord} (held : (build files).functions.get? key = some record) :
    record.IsMeasured := by
  obtain ⟨-, content, -, isFound⟩ := origin_of_functions_get? held
  obtain ⟨find, -, same⟩ := List.mem_map.mp isFound
  rw [← same]
  rfl

/-! ### Estimates -/

namespace Brief

/-- Steps do not touch what is remembered, on which it depends whether a payload can be written. -/
theorem isWritable_apply (step : CompressionStep) (brief : Brief) :
    (step.apply brief).isWritable = brief.isWritable := by
  cases step with
  | dropLowRelevance =>
    show brief.dropFiles.isWritable = _
    unfold dropFiles
    split <;> rfl
  | _ => rfl

/-- **The steps that leave out comments, blanks, files or the bodies of long functions never cost
tokens**: a payload that can be written still can, and its estimate is no larger than before. For
the bodies this takes that functions with long bodies are measured, as those of an index are. -/
theorem shrinkingSteps_tokens_le :
    (∀ (brief : Brief) (step : CompressionStep),
      (step.apply brief).isWritable = brief.isWritable) ∧
    (∀ brief : Brief,
      (CompressionStep.stripComments.apply brief).tokens ≤ brief.tokens ∧
      (CompressionStep.collapseWhitespace.apply brief).tokens ≤ brief.tokens ∧
      (CompressionStep.dropLowRelevance.apply brief).tokens ≤ brief.tokens) ∧
    (∀ brief : Brief,
      (∀ record ∈ brief.functions, longBodyLength < record.body.length → record.IsMeasured) →
      (CompressionStep.summarizeFunctions.apply brief).tokens ≤ brief.tokens) ∧
    ∀ (files : Ledger String) (key : String) (record : FunctionRecord),
      (Index.build files).functions.get? key = some record → record.IsMeasured := by
  refine ⟨fun brief step => isWritable_apply step brief, fun brief => ⟨?_, ?_, ?_⟩,
    fun brief measured => ?_, fun _ _ _ => Index.isMeasured_of_functions_get?⟩
  · exact tokensOfLength_mono (brief.size_changeTexts_le (textWeight_withoutComments_le charSize))
  · exact tokensOfLength_mono (brief.size_changeTexts_le
      (textWeight_withoutWhitespace_le charSize charSize_pos))
  · exact tokensOfLength_mono brief.size_dropFiles_le
  · have bodies : ((brief.functions.map FunctionRecord.summarize).map
        FunctionRecord.bodySize).sum ≤ (brief.functions.map FunctionRecord.bodySize).sum := by
      rw [List.map_map]
      exact List.sum_le_sum fun record member =>
        FunctionRecord.bodySize_summarize_le (measured record member)
    have payload := size_apply .summarizeFunctions brief
    have bodiesSize : (CompressionStep.summarizeFunctions.apply brief).bodiesSize ≤
        brief.bodiesSize := Nat.add_le_add_right bodies _
    have shorter : (CompressionStep.summarizeFunctions.apply brief).payload.size ≤
        brief.payload.size := by omega
    exact tokensOfLength_mono shorter

/-- A function whose body could not be more complex for its length. -/
theorem shrinkingSteps_tokens_le_questionMarks :
    let record : FunctionRecord :=
      { name := "f", path := "a.js", body := String.ofList (List.replicate 501 '?')
        complexity := 502 }
    let brief : Brief := { functions := [record] }
    longBodyLength < record.body.length ∧ record.IsMeasured ∧
      (CompressionStep.summarizeFunctions.apply brief).tokens ≤ brief.tokens := by
  intro record brief
  have long : longBodyLength < record.body.length := by
    rw [String.length_ofList, List.length_replicate]
    decide
  have measured : record.IsMeasured := by
    unfold FunctionRecord.IsMeasured Script.complexity
    rw [String.toList_ofList]
    decide +kernel
  refine ⟨long, measured, shrinkingSteps_tokens_le.2.2.1 brief fun other member _ => ?_⟩
  rw [List.mem_singleton.mp member]
  exact measured

end Brief

end CodeBrief
