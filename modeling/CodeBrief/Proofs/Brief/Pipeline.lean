/-
**How many steps the pipeline takes.**

`Brief.compress` measures a brief, applies a step, notes its name, and measures again. Its result is
compared with `Brief.afterSteps`, a copy to which the first few steps are applied without any
measuring.

* `Brief.stepsNeeded` — the number of steps that a budget calls for; `lt_tokens_afterAll` and
  `tokens_afterAll_le` say that it is the least number of steps after which the brief is within
  the budget, or all of them.
* `applySteps_eq` — a run of the pipeline applies just these steps and notes their names.
* `compress_runs_least_steps` — what follows for `Brief.compress`, and for two budgets.

The estimates need not fall from step to step, so that two runs cannot be compared by their sizes.
They are compared by the first estimate within the budget: one that is within the smaller budget is
within the larger one.
-/

import CodeBrief.Brief.Compression

namespace CodeBrief

/-! ### What a step leaves alone -/

/-- A step does not look at the noted names and does not change them. -/
theorem CompressionStep.apply_note (step : CompressionStep) (brief : Brief) (names : List String) :
    step.apply { brief with compressionSteps := names } =
      { step.apply brief with compressionSteps := names } := by
  cases step with
  | dropLowRelevance =>
    show Brief.dropFiles { brief with compressionSteps := names } =
      { brief.dropFiles with compressionSteps := names }
    unfold Brief.dropFiles
    split <;> rfl
  | _ => rfl

/-- A step changes the files, the functions, the classes and the dependencies at most. -/
theorem CompressionStep.frame (step : CompressionStep) (brief : Brief) :
    ∃ files functions classes dependencies,
      step.apply brief = { brief with files, functions, classes, dependencies } := by
  cases step with
  | dropLowRelevance =>
    show ∃ files functions classes dependencies,
      brief.dropFiles = { brief with files, functions, classes, dependencies }
    unfold Brief.dropFiles
    split
    · exact ⟨brief.files, brief.functions, brief.classes, brief.dependencies, rfl⟩
    · exact ⟨_, brief.functions, brief.classes, _, rfl⟩
  | _ => exact ⟨_, _, _, _, rfl⟩

theorem CompressionStep.compressionSteps_apply (step : CompressionStep) (brief : Brief) :
    (step.apply brief).compressionSteps = brief.compressionSteps := by
  obtain ⟨_, _, _, _, same⟩ := step.frame brief
  rw [same]

namespace Brief

/-- The estimate is one of the payload: the noted names do not count. -/
theorem tokens_note (brief : Brief) (names : List String) :
    { brief with compressionSteps := names }.tokens = brief.tokens := rfl

/-! ### Steps without measuring -/

/-- A brief after some steps, whatever its size. -/
def afterAll (steps : List CompressionStep) (brief : Brief) : Brief :=
  steps.foldl CompressionStep.apply brief

/-- A brief after the first `count` steps, whatever its size. -/
def afterSteps (brief : Brief) (count : Nat) : Brief :=
  brief.afterAll (CompressionStep.all.take count)

/-- Neither do several steps change anything else. -/
theorem frame_afterAll (steps : List CompressionStep) (brief : Brief) :
    ∃ files functions classes dependencies,
      brief.afterAll steps = { brief with files, functions, classes, dependencies } := by
  induction steps generalizing brief with
  | nil => exact ⟨_, _, _, _, rfl⟩
  | cons step rest ih =>
    obtain ⟨files, functions, classes, dependencies, same⟩ := ih (step.apply brief)
    obtain ⟨_, _, _, _, first⟩ := step.frame brief
    refine ⟨files, functions, classes, dependencies, same.trans ?_⟩
    rw [first]

theorem memory_afterAll (steps : List CompressionStep) (brief : Brief) :
    (brief.afterAll steps).memory = brief.memory := by
  obtain ⟨_, _, _, _, same⟩ := brief.frame_afterAll steps
  rw [same]

/-- The noted names pass through all steps. -/
theorem afterAll_note (steps : List CompressionStep) (brief : Brief) (names : List String) :
    afterAll steps { brief with compressionSteps := names } =
      { brief.afterAll steps with compressionSteps := names } := by
  induction steps generalizing brief with
  | nil => rfl
  | cons step rest ih =>
    show afterAll rest (step.apply { brief with compressionSteps := names }) = _
    rw [step.apply_note brief names]
    exact ih (step.apply brief)

/-! ### The steps that a budget calls for -/

/-- The number of steps, of those in a list, after which a brief is within a budget for the first
time; all of them if it never is. -/
def stepsNeededOf (budget : Int) : List CompressionStep → Brief → Nat
  | [], _ => 0
  | step :: rest, brief =>
    if (brief.tokens : Int) ≤ budget then 0 else stepsNeededOf budget rest (step.apply brief) + 1

/-- The number of steps that a budget calls for. -/
def stepsNeeded (brief : Brief) (budget : Int) : Nat :=
  stepsNeededOf budget CompressionStep.all brief

theorem stepsNeededOf_le_length (budget : Int) (steps : List CompressionStep) (brief : Brief) :
    stepsNeededOf budget steps brief ≤ steps.length := by
  induction steps generalizing brief with
  | nil => exact Nat.le_refl 0
  | cons step rest ih =>
    unfold stepsNeededOf
    split
    · exact Nat.zero_le _
    · exact Nat.succ_le_succ (ih (step.apply brief))

/-- The noted names have no say in how many steps are needed. -/
theorem stepsNeededOf_note (budget : Int) (steps : List CompressionStep) (brief : Brief)
    (names : List String) :
    stepsNeededOf budget steps { brief with compressionSteps := names } =
      stepsNeededOf budget steps brief := by
  induction steps generalizing brief with
  | nil => rfl
  | cons step rest ih =>
    unfold stepsNeededOf
    rw [tokens_note, step.apply_note brief names, ih (step.apply brief)]

/-- Fewer steps leave the brief above the budget. -/
theorem lt_tokens_afterAll (budget : Int) (steps : List CompressionStep) (brief : Brief)
    {fewer : Nat} (short : fewer < stepsNeededOf budget steps brief) :
    budget < (brief.afterAll (steps.take fewer)).tokens := by
  induction steps generalizing brief fewer with
  | nil => exact absurd short (Nat.not_lt_zero fewer)
  | cons step rest ih =>
    unfold stepsNeededOf at short
    split at short
    · exact absurd short (Nat.not_lt_zero fewer)
    · rename_i above
      cases fewer with
      | zero => exact Int.not_le.mp above
      | succ fewer => exact ih (step.apply brief) (Nat.lt_of_succ_lt_succ short)

/-- If not all steps are needed, the brief is within the budget after those that are. -/
theorem tokens_afterAll_le (budget : Int) (steps : List CompressionStep) (brief : Brief)
    (some_left : stepsNeededOf budget steps brief < steps.length) :
    ((brief.afterAll (steps.take (stepsNeededOf budget steps brief))).tokens : Int) ≤ budget := by
  induction steps generalizing brief with
  | nil => exact absurd some_left (Nat.not_lt_zero _)
  | cons step rest ih =>
    unfold stepsNeededOf at some_left ⊢
    split
    · rename_i within
      exact within
    · rename_i above
      rw [if_neg above] at some_left
      exact ih (step.apply brief) (Nat.lt_of_succ_lt_succ some_left)

/-- A larger budget calls for no more steps. -/
theorem stepsNeededOf_anti {budget larger : Int} (le : budget ≤ larger)
    (steps : List CompressionStep) (brief : Brief) :
    stepsNeededOf larger steps brief ≤ stepsNeededOf budget steps brief := by
  -- The smaller budget's run reaches its stopping point, where the larger one has stopped as well.
  rcases Nat.lt_or_ge (stepsNeededOf budget steps brief) (stepsNeededOf larger steps brief) with
    more | no_more
  · have left : stepsNeededOf budget steps brief < steps.length :=
      Nat.lt_of_lt_of_le more (stepsNeededOf_le_length larger steps brief)
    have within := tokens_afterAll_le budget steps brief left
    have above := lt_tokens_afterAll larger steps brief more
    omega
  · exact no_more

/-- A brief is never without tokens. -/
theorem tokens_pos (brief : Brief) : 0 < brief.tokens := by
  obtain ⟨rest, written⟩ : ∃ rest, Json.Style.compact.chars brief.payload = '{' :: rest := ⟨_, rfl⟩
  rw [tokens, recordTokens, written, tokensOf, List.length_cons, tokensOfLength]
  exact Nat.div_pos (by unfold charsPerToken; omega) (by decide)

/-- A budget of nothing calls for all steps. -/
theorem stepsNeededOf_zero (steps : List CompressionStep) (brief : Brief) :
    stepsNeededOf 0 steps brief = steps.length := by
  induction steps generalizing brief with
  | nil => rfl
  | cons step rest ih =>
    have above : ¬ (brief.tokens : Int) ≤ 0 := by
      have positive := brief.tokens_pos
      omega
    rw [stepsNeededOf, if_neg above, ih (step.apply brief), List.length_cons]

/-! ### Runs -/

/-- The brief that a run of the pipeline comes to if it comes to one: a copy after the needed steps,
with their names and with the figures about its size. -/
def shrunk (brief : Brief) (budget : Int) : Brief :=
  { brief.afterSteps (brief.stepsNeeded budget) with
    compressionSteps := brief.compressionSteps ++
      (CompressionStep.all.take (brief.stepsNeeded budget)).map CompressionStep.name
    estimatedTokens := (brief.afterSteps (brief.stepsNeeded budget)).tokens
    overBudget := budget < ((brief.afterSteps (brief.stepsNeeded budget)).tokens : Int) }

/-- All steps of a list that a budget calls for can be taken, each where its turn comes. -/
def CanTake (budget : Int) (steps : List CompressionStep) (brief : Brief) : Prop :=
  ∀ count < stepsNeededOf budget steps brief, ∀ step, steps[count]? = some step →
    step.isPossible (brief.afterAll (steps.take count)) = true

/-- The noted names have no say in what can be taken. -/
theorem isPossible_note (step : CompressionStep) (brief : Brief) (names : List String) :
    step.isPossible { brief with compressionSteps := names } = step.isPossible brief := by
  cases step <;> rfl

theorem canTake_note (budget : Int) (steps : List CompressionStep) (brief : Brief)
    (names : List String) :
    CanTake budget steps { brief with compressionSteps := names } ↔ CanTake budget steps brief := by
  unfold CanTake
  rw [stepsNeededOf_note]
  simp only [afterAll_note, isPossible_note]

/-- Above the budget the first step has to be possible, and then the others after it. -/
theorem canTake_cons_iff {budget : Int} {step : CompressionStep} {rest : List CompressionStep}
    {brief : Brief} (above : ¬ (brief.tokens : Int) ≤ budget) :
    CanTake budget (step :: rest) brief ↔
      step.isPossible brief = true ∧ CanTake budget rest (step.apply brief) := by
  have needed : stepsNeededOf budget (step :: rest) brief =
      stepsNeededOf budget rest (step.apply brief) + 1 := if_neg above
  unfold CanTake
  rw [needed]
  constructor
  · intro all
    refine ⟨all 0 (Nat.succ_pos _) step rfl, fun count fewer later found => ?_⟩
    exact all (count + 1) (Nat.succ_lt_succ fewer) later found
  · rintro ⟨first, others⟩ count fewer later found
    cases count with
    | zero =>
      obtain rfl := Option.some.inj found
      exact first
    | succ count => exact others count (Nat.lt_of_succ_lt_succ fewer) later found

/-- **A run of the pipeline applies the needed steps and notes their names**, if they can be taken;
else there is a number that cannot be spelled. -/
theorem applySteps_eq (budget : Int) (steps : List CompressionStep) (brief : Brief) :
    (CanTake budget steps brief → applySteps budget brief steps = .ok
      { brief.afterAll (steps.take (stepsNeededOf budget steps brief)) with
        compressionSteps := brief.compressionSteps ++
          (steps.take (stepsNeededOf budget steps brief)).map CompressionStep.name }) ∧
      (¬ CanTake budget steps brief → applySteps budget brief steps = .error .unspellable) := by
  induction steps generalizing brief with
  | nil =>
    refine ⟨fun _ => by simp [applySteps, afterAll], fun cannot => absurd ?_ cannot⟩
    exact fun count fewer => absurd fewer (Nat.not_lt_zero count)
  | cons step rest ih =>
    by_cases within : (brief.tokens : Int) ≤ budget
    · have none : stepsNeededOf budget (step :: rest) brief = 0 := if_pos within
      have can : CanTake budget (step :: rest) brief := by
        intro count fewer
        rw [none] at fewer
        exact absurd fewer (Nat.not_lt_zero count)
      refine ⟨fun _ => ?_, fun cannot => absurd can cannot⟩
      rw [applySteps, if_pos within, none]
      simp [afterAll]
    · have needed : stepsNeededOf budget (step :: rest) brief =
          stepsNeededOf budget rest (step.apply brief) + 1 := if_neg within
      rw [canTake_cons_iff within, needed, applySteps, if_neg within]
      by_cases possible : step.isPossible brief = true
      · -- The rest of the run starts from a brief that has one more name noted.
        obtain ⟨onward, stops⟩ := ih { step.apply brief with
          compressionSteps := (step.apply brief).compressionSteps ++ [step.name] }
        rw [canTake_note] at onward stops
        rw [if_pos possible]
        refine ⟨fun can => (onward can.2).trans ?_, fun cannot => stops fun can => ?_⟩
        · simp only [stepsNeededOf_note, afterAll_note, step.compressionSteps_apply,
            List.take_succ_cons, List.map_cons, List.append_assoc, List.singleton_append]
          rfl
        · exact cannot ⟨possible, can⟩
      · rw [if_neg possible]
        exact ⟨fun can => absurd can.1 possible, fun _ => rfl⟩

/-! ### What the steps have to spell -/

/-- The complexities that have to be spelled can be spelled: those of the long functions, if the
steps that a budget calls for summarize functions at all. -/
def CanSpell (brief : Brief) (budget : Int) : Prop :=
  .summarizeFunctions ∈ CompressionStep.all.take (brief.stepsNeeded budget) →
    ∀ record ∈ brief.functions, record.isSummarizable = true

/-- No other step has to spell anything, and functions are as they were when it is their turn. -/
theorem canTake_all_iff (brief : Brief) (budget : Int) :
    CanTake budget CompressionStep.all brief ↔ brief.CanSpell budget := by
  have among : ∀ count < 6, CompressionStep.all[count]? = some .summarizeFunctions → count = 2 := by
    decide
  have place : ∀ count, CompressionStep.all[count]? = some .summarizeFunctions → count = 2 :=
    fun count found => among count (List.getElem?_eq_some_iff.mp found).1 found
  constructor
  · intro can included
    obtain ⟨count, found⟩ := List.mem_iff_getElem?.mp included
    rw [List.getElem?_take] at found
    split at found
    · rename_i needed
      obtain rfl := place count found
      exact List.all_eq_true.mp (can 2 needed _ found)
    · cases found
  · intro spells count needed step found
    cases step with
    | summarizeFunctions =>
      obtain rfl := place count found
      refine List.all_eq_true.mpr (spells (List.mem_iff_getElem?.mpr ⟨2, ?_⟩))
      exact (List.getElem?_take_of_lt needed).trans found
    | _ => rfl

/-! ### The pipeline -/

section Compress

variable {brief smaller : Brief} {budget : Int}

/-- **When the pipeline comes to a brief, and to which one.** -/
theorem compress_eq_ok_iff :
    brief.compress budget = .ok smaller ↔
      (brief.isWritable = true ∧ Text.isSpellable budget = true ∧ brief.CanSpell budget) ∧
        brief.shrunk budget = smaller := by
  obtain ⟨can, cannot⟩ := applySteps_eq budget CompressionStep.all brief
  rw [canTake_all_iff] at can cannot
  unfold compress compressBy
  cases brief.isWritable with
  | false => simp
  | true =>
    cases Text.isSpellable budget with
    | false => simp
    | true =>
      by_cases spells : brief.CanSpell budget
      · rw [can spells]
        show Except.ok (brief.shrunk budget) = .ok smaller ↔ _
        simp [spells]
      · simp [cannot spells, spells, Except.map]

theorem eq_shrunk_of_compress (made : brief.compress budget = .ok smaller) :
    smaller = brief.shrunk budget := by
  rw [compress_eq_ok_iff] at made
  exact made.2.symm

/-- What a budget of nothing comes to, if the complexities of the long functions can be spelled. -/
theorem compress_zero (writable : brief.isWritable = true)
    (spells : ∀ record ∈ brief.functions, record.isSummarizable = true) :
    ∃ smaller, brief.compress 0 = .ok smaller ∧
      smaller.compressionSteps =
        brief.compressionSteps ++ CompressionStep.all.map CompressionStep.name ∧
      smaller.estimatedTokens = (brief.afterAll CompressionStep.all).tokens := by
  have spelled : Text.isSpellable 0 = true := by
    rw [Text.isSpellable_iff]
    -- No one has to know how large the power is.
    generalize Text.digitLimit = digits
    exact Nat.pow_pos (by decide)
  refine ⟨brief.shrunk 0, ?_, ?_⟩
  · rw [compress_eq_ok_iff]
    exact ⟨⟨writable, spelled, fun _ => spells⟩, rfl⟩
  · unfold shrunk afterSteps stepsNeeded
    rw [stepsNeededOf_zero, List.take_length]
    exact ⟨rfl, rfl⟩

/-- **When a brief can be given a budget, and what comes of it**: the brief with its own size if it
is within the budget, and else what the pipeline makes of that. -/
theorem withBudget_eq_ok_iff :
    brief.withBudget budget = .ok smaller ↔ brief.isWritable = true ∧
      ((brief.tokens : Int) ≤ budget ∧ brief.measured budget = smaller ∨
        budget < brief.tokens ∧ (brief.measured budget).compress budget = .ok smaller) := by
  unfold withBudget
  cases brief.isWritable with
  | false => simp
  | true =>
    rcases Int.lt_or_le budget brief.tokens with above | within
    · simp [above, Int.not_le.mpr above]
    · simp [within, Int.not_lt.mpr within]

/-- A brief can be given a budget that can be spelled just if it can be measured, and the complexities
that have to be spelled can be. -/
theorem withBudget_returns_iff (spelled : Text.isSpellable budget = true) :
    (∃ given, brief.withBudget budget = .ok given) ↔
      brief.isWritable = true ∧ (brief.measured budget).CanSpell budget := by
  constructor
  · rintro ⟨given, sized⟩
    rw [withBudget_eq_ok_iff] at sized
    obtain ⟨writable, ⟨within, -⟩ | ⟨-, made⟩⟩ := sized
    · refine ⟨writable, fun included => ?_⟩
      have none : (brief.measured budget).stepsNeeded budget = 0 := if_pos within
      rw [none] at included
      cases included
    · rw [compress_eq_ok_iff] at made
      exact ⟨writable, made.1.2.2⟩
  · rintro ⟨writable, spells⟩
    simp only [withBudget_eq_ok_iff, compress_eq_ok_iff]
    rcases Int.lt_or_le budget brief.tokens with above | within
    · exact ⟨_, writable, .inr ⟨above, ⟨writable, spelled, spells⟩, rfl⟩⟩
    · exact ⟨_, writable, .inl ⟨within, rfl⟩⟩

end Compress

/-- **The pipeline takes the least number of steps**, if it comes to a brief. It does so just if the
brief can be measured, and if the budget and the complexities of the long functions that are
summarized can be spelled. It applies the first `stepsNeeded` steps and notes their names in order;
this is the least number of steps after which the brief is within the budget, or all six; the
estimate is one of the result, and the result is over budget just if that estimate is, which takes
all six steps. Whatever the number of steps, the payload can be written as well as before, so that
each estimate exists if the first one does. The steps for a larger budget are the first of those for
a smaller one. -/
theorem compress_runs_least_steps (brief : Brief) (budget : Int) :
    ((∃ smaller, brief.compress budget = .ok smaller) ↔
      brief.isWritable = true ∧ Text.isSpellable budget = true ∧ brief.CanSpell budget) ∧
    (brief.stepsNeeded budget ≤ CompressionStep.all.length ∧
      (∀ fewer < brief.stepsNeeded budget, budget < ((brief.afterSteps fewer).tokens : Int)) ∧
      (brief.stepsNeeded budget < CompressionStep.all.length →
        ((brief.afterSteps (brief.stepsNeeded budget)).tokens : Int) ≤ budget)) ∧
    (∀ smaller, brief.compress budget = .ok smaller →
      smaller =
        { brief.afterSteps (brief.stepsNeeded budget) with
          compressionSteps := brief.compressionSteps ++
            (CompressionStep.all.take (brief.stepsNeeded budget)).map CompressionStep.name
          estimatedTokens := smaller.tokens
          overBudget := budget < (smaller.tokens : Int) } ∧
      (smaller.overBudget = true → brief.stepsNeeded budget = CompressionStep.all.length)) ∧
    (∀ count, (brief.afterSteps count).isWritable = brief.isWritable) ∧
    (∀ larger, budget ≤ larger →
      brief.stepsNeeded larger ≤ brief.stepsNeeded budget ∧
      ∀ smaller less, brief.compress budget = .ok smaller → brief.compress larger = .ok less →
        less.compressionSteps <+: smaller.compressionSteps) := by
  have bounded := stepsNeededOf_le_length budget CompressionStep.all brief
  have within := tokens_afterAll_le budget CompressionStep.all brief
  refine ⟨?_, ⟨bounded, fun fewer short => lt_tokens_afterAll budget _ brief short, within⟩, ?_, ?_,
    ?_⟩
  · simp only [compress_eq_ok_iff]
    constructor
    · rintro ⟨_, can, -⟩
      exact can
    · intro can
      exact ⟨brief.shrunk budget, can, rfl⟩
  · intro smaller made
    obtain rfl := eq_shrunk_of_compress made
    refine ⟨rfl, fun exceeds => ?_⟩
    have above : budget < ((brief.afterSteps (brief.stepsNeeded budget)).tokens : Int) :=
      of_decide_eq_true exceeds
    rcases Nat.lt_or_ge (brief.stepsNeeded budget) CompressionStep.all.length with left | none_left
    · exact absurd (within left) (Int.not_le.mpr above)
    · exact Nat.le_antisymm bounded none_left
  · intro count
    unfold isWritable afterSteps
    rw [memory_afterAll]
  · intro larger le
    have fewer : brief.stepsNeeded larger ≤ brief.stepsNeeded budget :=
      stepsNeededOf_anti le CompressionStep.all brief
    refine ⟨fewer, fun smaller less made madeLess => ?_⟩
    rw [eq_shrunk_of_compress made, eq_shrunk_of_compress madeLess]
    exact (List.prefix_append_right_inj _).mpr ((List.take_prefix_take_left fewer).map _)

/-- The smallest budget that has too many digits to be spelled. -/
def unspellableBudget : Int := Nat.pow 10 Text.digitLimit

/-- A brief without anything in it does not come through the pipeline with that budget, though it
is far below it. -/
theorem not_compressed_unspellableBudget :
    ({} : Brief).isWritable = true ∧ (({} : Brief).tokens : Int) ≤ unspellableBudget ∧
      ¬ ∃ smaller, ({} : Brief).compress unspellableBudget = .ok smaller := by
  have size : unspellableBudget.natAbs = Nat.pow 10 Text.digitLimit := Int.natAbs_natCast _
  have unspellable : Text.isSpellable unspellableBudget = false := by
    rw [← Bool.not_eq_true, Text.isSpellable_iff, size]
    exact Nat.lt_irrefl _
  refine ⟨rfl, ?_, ?_⟩
  · have few : ({} : Brief).tokens ≤ 10 ^ 3 := by decide +kernel
    have enough : 3 ≤ Text.digitLimit := by decide
    unfold unspellableBudget
    generalize Text.digitLimit = digits at enough
    exact Int.ofNat_le.mpr (Nat.le_trans few (Nat.pow_le_pow_right (by decide) enough))
  · rintro ⟨smaller, made⟩
    rw [compress_eq_ok_iff, unspellable] at made
    exact nomatch made.1.2.1

end Brief

end CodeBrief
