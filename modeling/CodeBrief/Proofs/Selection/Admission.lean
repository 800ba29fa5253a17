/-
**The log of a selection.**

Items of three kinds go into three lists, so that a selection does not tell in which order they were
taken. The log does: it holds what is taken under the key under which it was offered.

* `admission?` — what is taken of an item, given the tokens used so far.
* `admissions` — the log of a run over some scores.
* `choose_eq` — a selection is its log, read kind by kind.
* `admissions_append` — the log of a run goes on from where the log of its first part ends.
* `admissions_split`, `admission?_of_mem_admissions` — each thing taken was offered in its turn.
* `admissions_shape` — the files are taken whole, except that the last thing taken may be a file
  that is cut down to what is left.
-/

import CodeBrief.Proofs.Selection.Summary

namespace CodeBrief.Selection

/-! ### What is taken -/

/-- What is taken into a selection. -/
inductive Admission where
  /-- A file, whole or cut down. -/
  | file (file : SelectedFile)
  /-- A function. -/
  | function (record : FunctionRecord)
  /-- A class. -/
  | «class» (record : ClassRecord)
  deriving DecidableEq, Repr

namespace Admission

/-- The tokens that it takes. -/
def tokens : Admission → Nat
  | .file chosen => tokensOf chosen.content.toList
  | .function record => recordTokens record.toJson
  | .class record => recordTokens record.toJson

/-- Whether it is a file that is cut down. -/
def isCut : Admission → Bool
  | .file chosen => chosen.summarized
  | _ => false

/-- The file, if it is one. -/
def file? : Admission → Option SelectedFile
  | .file chosen => some chosen
  | _ => none

/-- The function, if it is one. -/
def function? : Admission → Option FunctionRecord
  | .function record => some record
  | _ => none

/-- The class, if it is one. -/
def class? : Admission → Option ClassRecord
  | .class record => some record
  | _ => none

end Admission

/-- The tokens that an item takes as a whole. -/
def Item.tokens : Item → Nat
  | .file _ content => tokensOf content.toList
  | .function record => recordTokens record.toJson
  | .class record => recordTokens record.toJson
  | .unknown => 0

/-- An item as a whole, with the score of a file. -/
def Item.whole? (score : Int) : Item → Option Admission
  | .file path content => some (.file ⟨path, content, score, false⟩)
  | .function record => some (.function record)
  | .class record => some (.class record)
  | .unknown => none

/-- What is taken of an item when `used` of the tokens of a budget are used: all of it if it fits,
and what is left of a file that does not. -/
def admission? (budget used score : Int) (item : Item) : Option Admission :=
  if used + item.tokens ≤ budget then item.whole? score
  else match item with
    | .file path content =>
      some (.file ⟨path, summarize content (budget - used), score, true⟩)
    | _ => none

/-- A selection with something more. -/
def accept (selection : Selection) : Admission → Selection
  | .file file => selection.addFile file
  | .function record => selection.addFunction record (recordTokens record.toJson)
  | .class record => selection.addClass record (recordTokens record.toJson)

@[simp] theorem tokensUsed_accept (selection : Selection) (admission : Admission) :
    (selection.accept admission).tokensUsed = selection.tokensUsed + admission.tokens := by
  cases admission <;> rfl

@[simp] theorem tokenBudget_accept (selection : Selection) (admission : Admission) :
    (selection.accept admission).tokenBudget = selection.tokenBudget := by
  cases admission <;> rfl

/-- Offering an item adds what is taken of it. -/
theorem offer_eq (selection : Selection) (score : Int) (item : Item) :
    selection.offer score item =
      match admission? selection.tokenBudget selection.tokensUsed score item with
      | none => selection
      | some admission => selection.accept admission := by
  cases item with
  | file path content =>
    by_cases room : selection.tokensUsed + tokensOf content.toList ≤ selection.tokenBudget <;>
      simp [admission?, offer, fits, Item.tokens, Item.whole?, accept, room]
  | function record =>
    by_cases room : selection.tokensUsed + recordTokens record.toJson ≤ selection.tokenBudget <;>
      simp [admission?, offer, fits, Item.tokens, Item.whole?, accept, room]
  | «class» record =>
    by_cases room : selection.tokensUsed + recordTokens record.toJson ≤ selection.tokenBudget <;>
      simp [admission?, offer, fits, Item.tokens, Item.whole?, accept, room]
  | unknown => simp [admission?, offer, Item.whole?]

/-! ### The log -/

/-- What is taken of the items of some scores, one after another, until `used` and what is taken use
up the budget. -/
def admissions (index : Index) (budget : Int) :
    (used : Int) → List (String × Int) → List (String × Admission)
  | _, [] => []
  | used, (key, score) :: rest =>
    if budget ≤ used then []
    else match admission? budget used score (itemOf index key) with
      | none => admissions index budget used rest
      | some admission =>
        (key, admission) :: admissions index budget (used + admission.tokens) rest

/-- The tokens that a log takes. -/
def spent (log : List (String × Admission)) : Nat :=
  (log.map fun entry => entry.2.tokens).sum

@[simp] theorem spent_nil : spent [] = 0 := rfl

@[simp] theorem spent_cons (entry : String × Admission) (log : List (String × Admission)) :
    spent (entry :: log) = entry.2.tokens + spent log := by
  unfold spent
  rw [List.map_cons, List.sum_cons]

@[simp] theorem spent_append (left right : List (String × Admission)) :
    spent (left ++ right) = spent left + spent right := by
  unfold spent
  rw [List.map_append, List.sum_append]

/-- A run adds its log. -/
theorem offerAll_eq_foldl (index : Index) (selection : Selection) (order : List (String × Int)) :
    offerAll index selection order =
      (admissions index selection.tokenBudget selection.tokensUsed order).foldl
        (fun sofar entry => sofar.accept entry.2) selection := by
  induction order generalizing selection with
  | nil => rfl
  | cons entry rest ih =>
    obtain ⟨key, score⟩ := entry
    unfold offerAll admissions
    split
    · rfl
    · rw [ih, offer_eq]
      split
      · rfl
      · rw [List.foldl_cons, tokensUsed_accept, tokenBudget_accept]

/-- What a log adds to a selection, kind by kind. -/
theorem foldl_accept (log : List (String × Admission)) (selection : Selection) :
    log.foldl (fun sofar entry => sofar.accept entry.2) selection =
      { files := selection.files ++ log.filterMap fun entry => entry.2.file?
        functions := selection.functions ++ log.filterMap fun entry => entry.2.function?
        classes := selection.classes ++ log.filterMap fun entry => entry.2.class?
        tokensUsed := selection.tokensUsed + spent log
        tokenBudget := selection.tokenBudget } := by
  induction log generalizing selection with
  | nil => simp
  | cons entry rest ih =>
    obtain ⟨key, admission⟩ := entry
    rw [List.foldl_cons, ih]
    cases admission <;>
      simp [accept, addFile, addFunction, addClass, Admission.file?, Admission.function?,
        Admission.class?, Admission.tokens, Int.add_assoc]

/-- The log of the selection for some scores. -/
def log (index : Index) (scores : List (String × Int)) (budget : Int) :
    List (String × Admission) :=
  admissions index budget 0 (ranked scores)

/-- **A selection is its log**, read kind by kind. -/
theorem choose_eq (index : Index) (scores : List (String × Int)) (budget : Int) :
    choose index scores budget =
      { files := (log index scores budget).filterMap fun entry => entry.2.file?
        functions := (log index scores budget).filterMap fun entry => entry.2.function?
        classes := (log index scores budget).filterMap fun entry => entry.2.class?
        tokensUsed := spent (log index scores budget)
        tokenBudget := budget } := by
  unfold choose
  rw [offerAll_eq_foldl, foldl_accept]
  simp [log]

/-! ### What a log looks like -/

section Log

variable (index : Index) (budget : Int)

/-- Nothing is taken once the budget is used up. -/
theorem admissions_of_le {used : Int} (full : budget ≤ used) (order : List (String × Int)) :
    admissions index budget used order = [] := by
  cases order with
  | nil => rfl
  | cons entry rest =>
    unfold admissions
    exact if_pos full

variable {used score : Int} {key : String}

/-- An item of which nothing is taken is passed over. -/
theorem admissions_cons_none (room : used < budget)
    (skipped : admission? budget used score (itemOf index key) = none)
    (rest : List (String × Int)) :
    admissions index budget used ((key, score) :: rest) = admissions index budget used rest := by
  rw [admissions, if_neg (Int.not_le.mpr room), skipped]

/-- What is taken of an item counts for those after it. -/
theorem admissions_cons_some (room : used < budget) {admission : Admission}
    (taken : admission? budget used score (itemOf index key) = some admission)
    (rest : List (String × Int)) :
    admissions index budget used ((key, score) :: rest) =
      (key, admission) :: admissions index budget (used + admission.tokens) rest := by
  rw [admissions, if_neg (Int.not_le.mpr room), taken]

/-- **A run goes on from where its first part ends.** -/
theorem admissions_append (used : Int) (first second : List (String × Int)) :
    admissions index budget used (first ++ second) =
      admissions index budget used first ++
        admissions index budget (used + spent (admissions index budget used first)) second := by
  fun_induction admissions index budget used first with
  | case1 used => simp
  | case2 used key score rest full =>
    rw [admissions_of_le index budget full, spent_nil, Int.natCast_zero, Int.add_zero,
      admissions_of_le index budget full, List.nil_append]
  | case3 used key score rest room skipped ih =>
    rw [List.cons_append, admissions_cons_none index budget (Int.not_le.mp room) skipped]
    exact ih
  | case4 used key score rest room admission taken ih =>
    rw [List.cons_append, admissions_cons_some index budget (Int.not_le.mp room) taken, ih,
      List.cons_append, spent_cons, Int.natCast_add, Int.add_assoc]

/-- **What is taken was offered in its turn**, when what stands before it in the log had been
taken. -/
theorem admissions_split {used : Int} {order : List (String × Int)} {key : String}
    {admission : Admission} {initial later : List (String × Admission)}
    (run : admissions index budget used order = initial ++ (key, admission) :: later) :
    ∃ above score below, order = above ++ (key, score) :: below ∧
      admissions index budget used above = initial ∧
      admission? budget (used + spent initial) score (itemOf index key) = some admission := by
  fun_induction admissions index budget used order generalizing initial with
  | case1 used => exact absurd run (by simp)
  | case2 used offered score rest full => exact absurd run (by simp)
  | case3 used offered score rest room skipped ih =>
    obtain ⟨above, turn, below, same, earlier, taken⟩ := ih run
    refine ⟨(offered, score) :: above, turn, below, ?_, ?_, taken⟩
    · rw [same, List.cons_append]
    · rw [admissions_cons_none index budget (Int.not_le.mp room) skipped, earlier]
  | case4 used offered score rest room first takenFirst ih =>
    -- The entry in question is the one just taken, or it comes later.
    cases initial with
    | nil =>
      obtain ⟨same, -⟩ := List.cons.inj run
      cases same
      refine ⟨[], score, rest, rfl, rfl, ?_⟩
      rw [spent_nil, Int.natCast_zero, Int.add_zero]
      exact takenFirst
    | cons entry initial =>
      obtain ⟨rfl, further⟩ := List.cons.inj run
      obtain ⟨above, turn, below, same, earlier, taken⟩ := ih further
      refine ⟨(offered, score) :: above, turn, below, ?_, ?_, ?_⟩
      · rw [same, List.cons_append]
      · rw [admissions_cons_some index budget (Int.not_le.mp room) takenFirst, earlier]
      · rw [spent_cons, Int.natCast_add, ← Int.add_assoc]
        exact taken

/-- Whatever is taken is taken of what its key stands for. -/
theorem admission?_of_mem_admissions {used : Int} {order : List (String × Int)} {key : String}
    {admission : Admission} (taken : (key, admission) ∈ admissions index budget used order) :
    ∃ used' score, admission? budget used' score (itemOf index key) = some admission := by
  obtain ⟨initial, later, run⟩ := List.append_of_mem taken
  obtain ⟨-, score, -, -, -, admitted⟩ := admissions_split index budget run
  exact ⟨_, score, admitted⟩

/-- What is taken is taken in the order of the scores. -/
theorem keys_admissions_sublist (used : Int) (order : List (String × Int)) :
    ((admissions index budget used order).map Prod.fst).Sublist (order.map Prod.fst) := by
  fun_induction admissions index budget used order with
  | case1 used => exact List.Sublist.slnil
  | case2 used key score rest full => exact List.nil_sublist _
  | case3 used key score rest room skipped ih => exact ih.cons _
  | case4 used key score rest room admission taken ih => exact ih.cons_cons _

end Log

/-- Only a file's own key stands for it. -/
theorem itemOf_eq_file {index : Index} {key path content : String}
    (same : itemOf index key = .file path content) :
    path = key ∧ index.files.get? key = some content := by
  unfold itemOf at same
  split at same
  · split at same <;> cases same
  · split at same
    · split at same <;> cases same
    · split at same
      · rename_i found
        cases same
        exact ⟨rfl, found⟩
      · cases same

/-- A whole item takes the tokens of the item and is not cut. -/
theorem whole?_eq_some {score : Int} {item : Item} {admission : Admission}
    (whole : item.whole? score = some admission) :
    admission.tokens = item.tokens ∧ admission.isCut = false := by
  cases item <;> cases whole <;> exact ⟨rfl, rfl⟩

/-- The files of a log without cuts have not been cut down. -/
theorem summarized_of_uncut {log : List (String × Admission)}
    (uncut : ∀ entry ∈ log, entry.2.isCut = false) :
    ∀ file ∈ log.filterMap fun entry => entry.2.file?, file.summarized = false := by
  intro file member
  obtain ⟨⟨key, admission⟩, inside, same⟩ := List.mem_filterMap.mp member
  have whole := uncut _ inside
  cases admission with
  | file chosen =>
    cases same
    exact whole
  | function record => cases same
  | «class» record => cases same

/-- What is taken is a whole item that fits, or a file that does not, cut down. -/
theorem admission?_eq_some {budget used score : Int} {item : Item} {admission : Admission}
    (taken : admission? budget used score item = some admission) :
    (used + item.tokens ≤ budget ∧ item.whole? score = some admission) ∨
      ∃ path content, item = .file path content ∧ budget < used + tokensOf content.toList ∧
        admission = .file ⟨path, summarize content (budget - used), score, true⟩ := by
  unfold admission? at taken
  split at taken
  · rename_i fits
    exact Or.inl ⟨fits, taken⟩
  · rename_i room
    split at taken
    · rename_i path content
      exact Or.inr ⟨path, content, rfl, Int.not_le.mp room, (Option.some.inj taken).symm⟩
    · cases taken

/-- A file is taken with the score for which it was offered. -/
theorem relevance_of_admission? {budget used score : Int} {item : Item} {file : SelectedFile}
    (taken : admission? budget used score item = some (.file file)) : file.relevance = score := by
  rcases admission?_eq_some taken with ⟨-, whole⟩ | ⟨path, content, -, -, same⟩
  · cases item <;> cases whole
    rfl
  · cases same
    rfl

/-- An entry of a log for a file that takes more than `room` tokens and is cut down to them. -/
def IsCutFile (index : Index) (room : Int) (entry : String × Admission) : Prop :=
  ∃ content score, index.files.get? entry.1 = some content ∧ 0 < room ∧
    room < tokensOf content.toList ∧
    entry.2 = .file ⟨entry.1, summarize content room, score, true⟩

/-- **Everything is taken whole and within the budget**, except that the last thing taken may be a
file that is cut down to what is left. -/
theorem admissions_shape (index : Index) (budget used : Int) (order : List (String × Int)) :
    ∃ whole last, admissions index budget used order = whole ++ last ∧
      (∀ entry ∈ whole, entry.2.isCut = false) ∧ used + spent whole ≤ max budget used ∧
      (last = [] ∨ ∃ entry, last = [entry] ∧
        IsCutFile index (budget - (used + spent whole)) entry) := by
  fun_induction admissions index budget used order with
  | case1 used =>
    exact ⟨[], [], rfl, fun _ member => absurd member List.not_mem_nil, by simp, Or.inl rfl⟩
  | case2 used key score rest full =>
    exact ⟨[], [], rfl, fun _ member => absurd member List.not_mem_nil, by simp, Or.inl rfl⟩
  | case3 used key score rest room skipped ih => exact ih
  | case4 used key score rest room admission taken ih =>
    rcases admission?_eq_some taken with ⟨fits, whole⟩ | ⟨path, content, item, long, rfl⟩
    · -- The item is taken whole: it joins those after it.
      obtain ⟨tokens, uncut⟩ := whole?_eq_some whole
      obtain ⟨later, last, same, laterUncut, within, ending⟩ := ih
      have sums : used + (spent ((key, admission) :: later) : Int) =
          used + admission.tokens + spent later := by
        rw [spent_cons, Int.natCast_add, Int.add_assoc]
      refine ⟨(key, admission) :: later, last, by rw [same, List.cons_append], ?_, ?_, ?_⟩
      · intro entry member
        rcases List.mem_cons.mp member with rfl | member
        · exact uncut
        · exact laterUncut entry member
      · omega
      · rw [sums]
        exact ending
    · -- The file is cut down, which uses up the budget.
      obtain ⟨rfl, found⟩ := itemOf_eq_file item
      have left : budget - used < tokensOf content.toList := by omega
      obtain ⟨_, _, _, _, _, tokens⟩ := tokensOf_summarizeChars (by omega) left
      have full : budget ≤ used + ((Admission.file
          ⟨path, summarize content (budget - used), score, true⟩).tokens : Int) := by
        simp only [Admission.tokens, summarize, String.toList_ofList, tokens]
        omega
      rw [admissions_of_le index budget full]
      refine ⟨[], [_], rfl, fun _ member => absurd member List.not_mem_nil, by simp,
        Or.inr ⟨_, rfl, content, score, found, ?_, ?_, ?_⟩⟩
      · simp only [spent_nil]
        omega
      · simp only [spent_nil]
        omega
      · simp

end CodeBrief.Selection
