/-
**The length of a payload, part by part.**

The payload of a brief is one JSON object. What follows says how its length hangs on the parts that
the steps change: the texts of files, the bodies of functions and of classes, and the lists of files
and dependencies.

* `size_payload_swap` — the payload with other lists, in terms of the lengths of the lists.
* `size_ofList_map_le`, `size_ofList_le_of_subperm` — a list whose items get shorter, or fewer.
* `size_ofList_swap` — a list whose items get longer or shorter by what some part of them does.
* `FunctionRecord.bodySize`, `ClassRecord.bodySize` — the parts that are replaced by placeholders.
-/

import CodeBrief.Brief.Compression
import CodeBrief.Proofs.Json.Size
import CodeBrief.Proofs.Pattern.Replacement
import Mathlib.Algebra.Order.Group.Nat

namespace CodeBrief

open Json Pattern

/-! ### Lists -/

section Lists

variable {α : Type} (write : α → Value)

theorem size_ofList (items : List α) :
    (ValueOf.ofList write items).size =
      max 2 ((items.map fun item => (write item).size + 1).sum + 1) := by
  unfold ValueOf.ofList
  rw [size_array, List.map_map]
  rfl

/-- Items that do not get longer. -/
theorem size_ofList_map_le (change : α → α) (items : List α)
    (shorter : ∀ item ∈ items, (write (change item)).size ≤ (write item).size) :
    (ValueOf.ofList write (items.map change)).size ≤ (ValueOf.ofList write items).size := by
  have sums : ((items.map change).map fun item => (write item).size + 1).sum ≤
      (items.map fun item => (write item).size + 1).sum := by
    rw [List.map_map]
    exact List.sum_le_sum fun item member => Nat.succ_le_succ (shorter item member)
  rw [size_ofList, size_ofList]
  omega

/-- Fewer items, in whatever order. -/
theorem size_ofList_le_of_subperm {fewer items : List α} (fewerItems : fewer.Subperm items) :
    (ValueOf.ofList write fewer).size ≤ (ValueOf.ofList write items).size := by
  obtain ⟨middle, perm, sublist⟩ := fewerItems
  have sums : (fewer.map fun item => (write item).size + 1).sum ≤
      (items.map fun item => (write item).size + 1).sum := by
    rw [← (perm.map _).sum_eq]
    exact (sublist.map _).sum_le_sum fun _ _ => Nat.zero_le _
  rw [size_ofList, size_ofList]
  omega

/-- The second item is longer or shorter than the first one by what its `part` is. -/
def Swaps (part : α → Nat) (item item' : α) : Prop :=
  (write item').size + part item = (write item).size + part item'

/-- Items that change in a part only: the list changes as the parts do. -/
theorem size_ofList_swap (part : α → Nat) {items items' : List α}
    (pairs : List.Forall₂ (Swaps write part) items items') :
    (ValueOf.ofList write items').size + (items.map part).sum =
      (ValueOf.ofList write items).size + (items'.map part).sum := by
  have sums : (items'.map fun item => (write item).size + 1).sum + (items.map part).sum =
      (items.map fun item => (write item).size + 1).sum + (items'.map part).sum := by
    induction pairs with
    | nil => rfl
    | cons swap _ ih =>
      unfold Swaps at swap
      simp only [List.map_cons, List.sum_cons]
      omega
  rw [size_ofList, size_ofList]
  cases pairs with
  | nil => rfl
  | cons swap _ =>
    -- Neither list is empty, so that both are given by their sums.
    simp only [List.map_cons, List.sum_cons] at sums ⊢
    omega

end Lists

/-! ### Records -/

/-- A file whose text does not get heavier does not get longer. -/
theorem SelectedFile.size_changeText_le {change : List Char → List Char}
    (lighter : ∀ text, textWeight charSize (change text) ≤ textWeight charSize text)
    (file : SelectedFile) : (file.changeText change).toJson.size ≤ file.toJson.size := by
  unfold SelectedFile.changeText
  split
  · exact Nat.le_refl _
  · have text : textSize (String.ofList (change file.content.toList)) ≤ textSize file.content := by
      rw [textSize_eq, textSize_eq, String.toList_ofList]
      exact Nat.add_le_add_right (lighter file.content.toList) 2
    simp only [SelectedFile.toJson, size_object, List.map_cons, List.map_nil, List.sum_cons,
      size_string]
    omega

/-- The characters that write the body of a function and whether it has been replaced. -/
def FunctionRecord.bodySize (record : FunctionRecord) : Nat :=
  textSize record.body + (ValueOf.bool record.summarized).size

/-- A function with another body changes as the body does. -/
theorem FunctionRecord.swaps (record : FunctionRecord) (body : String) (summarized : Bool) :
    Swaps FunctionRecord.toJson bodySize record { record with body, summarized } := by
  simp only [Swaps, FunctionRecord.toJson, FunctionRecord.bodySize, size_object, List.map_cons,
    List.map_nil, List.sum_cons, size_string]
  omega

/-- The characters that write the body of a class and what stands for it. -/
def ClassRecord.bodySize (record : ClassRecord) : Nat :=
  textSize record.body + (ValueOf.ofText? record.summary).size

/-- A class with another body changes as the body does. -/
theorem ClassRecord.swaps (record : ClassRecord) (body : String) (summary : Option String) :
    Swaps ClassRecord.toJson bodySize record { record with body, summary } := by
  simp only [Swaps, ClassRecord.toJson, ClassRecord.bodySize, size_object, List.map_cons,
    List.map_nil, List.sum_cons, size_string]
  omega

/-- Fewer dependencies. -/
theorem size_filter_le (dependencies : Ledger ScriptFacts) (keep : String → ScriptFacts → Bool) :
    (ValueOf.object ((dependencies.filter keep).mapValues fun _ facts => facts.toJson).entries).size ≤
      (ValueOf.object (dependencies.mapValues fun _ facts => facts.toJson).entries).size :=
  size_object_le_of_sublist (List.filter_sublist.map _)

/-! ### Payloads -/

/-- Longer payloads have no smaller estimates. -/
theorem tokensOfLength_mono {length length' : Nat} (le : length ≤ length') :
    tokensOfLength length ≤ tokensOfLength length' :=
  Nat.div_le_div_right (Nat.add_le_add_right le _)

namespace Brief

theorem tokens_eq (brief : Brief) : brief.tokens = tokensOfLength brief.payload.size := rfl

/-- The lengths of the lists that the steps change. -/
def listsSize (brief : Brief) : Nat :=
  (ValueOf.ofList SelectedFile.toJson brief.files).size +
    (ValueOf.ofList FunctionRecord.toJson brief.functions).size +
    (ValueOf.ofList ClassRecord.toJson brief.classes).size +
    (ValueOf.object (brief.dependencies.mapValues fun _ facts => facts.toJson).entries).size

/-- **A payload with other lists changes as the lists do.** -/
theorem size_payload_swap (brief : Brief) (files : List SelectedFile)
    (functions : List FunctionRecord) (classes : List ClassRecord)
    (dependencies : Ledger ScriptFacts) :
    { brief with files, functions, classes, dependencies }.payload.size + brief.listsSize =
      brief.payload.size + { brief with files, functions, classes, dependencies }.listsSize := by
  simp only [payload, payloadMembers, listsSize, size_object, List.map_cons, List.map_nil,
    List.sum_cons]
  omega

end Brief

end CodeBrief
