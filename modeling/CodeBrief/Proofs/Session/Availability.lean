/-
**When a session gives a brief.**

No step of putting a brief together is meant to fail, whatever the budget. Some do:

* the budget is turned into a floating-point number, which there is not for every integer
  (`assemble_of_overflow`; `not_given_hugeBudget` is such a budget);
* the name or the description of the project may not be encodable (`ProjectEncodable`);
* what went with a remembered exchange may be nested too deep to be written (`RecallsWritable`);
* a complexity may have too many digits to be spelled (`ComplexitiesSpellable`).

`brief_given_iff` says that there is nothing else, at any point of any history of a session whose
settings set aside a share. The third takes an exchange of the history that went with something
nested too deep (`recallsWritable_run`), the last a text whose length has too many digits itself
(`complexitiesSpellable_of_lengths`).
-/

import CodeBrief.Proofs.Index.Complexity
import CodeBrief.Proofs.Selection.WorkingBudget
import CodeBrief.Proofs.Session.Assembly
import CodeBrief.Proofs.Session.LastAnalysis
import CodeBrief.Proofs.Text.CodeText

namespace CodeBrief.Session

variable {session : Session} {query : String} {options : BriefOptions} {settings : Settings}
  {operations : List Operation}

/-! ### What is recalled -/

/-- What a brief for a query would hold of the memory can be written. -/
def RecallsWritable (session : Session) (query : String) (options : BriefOptions) : Prop :=
  options.includeMemory.getD session.settings.brief.includeMemory = true →
    (session.memory.recollect query).isWritable = true

theorem isWritable_draft_iff (room : Int) (project : ProjectSummary) :
    (session.draft query options room project).isWritable = true ↔
      session.RecallsWritable query options := by
  unfold RecallsWritable draft Brief.isWritable
  dsimp only
  split
  · rename_i included
    simp [included]
  · rename_i excluded
    simp [excluded]

/-- A focus has no say in what is recalled. -/
theorem recallsWritable_focusOn :
    (session.focusOn options).RecallsWritable query options ↔
      session.RecallsWritable query options := by
  rw [focusOn_eq]
  rfl

theorem budgetFor_focusOn :
    (session.focusOn options).budgetFor options = session.budgetFor options := by
  rw [focusOn_eq]
  rfl

/-- What went with a conversation that is remembered went with an exchange of the history. -/
theorem exchange_of_conversation {conversation : Conversation}
    (remembered : conversation ∈ ((withSettings settings).run operations).memory.conversations) :
    ∃ now exchange, .remember now exchange ∈ operations ∧
      exchange.context = conversation.context := by
  have told := Memory.remembers_run settings.memory (operations.filterMap Operation.call?)
  rw [memory_run] at remembered
  obtain ⟨⟨now, exchange⟩, noted, same⟩ := List.mem_map.mp (told.conversations.subset remembered)
  obtain ⟨call, made, isRecord⟩ := List.mem_filterMap.mp noted
  obtain ⟨operation, member, calls⟩ := List.mem_filterMap.mp made
  refine ⟨now, exchange, ?_, by rw [← same]; rfl⟩
  -- Of all operations, only one that remembers makes a call with an exchange.
  cases operation with
  | remember =>
    cases calls
    cases isRecord
    exact member
  | touch => cases calls; cases isRecord
  | setFocus => cases calls; cases isRecord
  | ask _ options =>
    obtain ⟨area, -, rfl⟩ := Option.map_eq_some_iff.mp calls
    cases isRecord
  | analyze => cases calls
  | analyzeTree => cases calls

/-- If nothing that went with an exchange is nested too deep, everything that is recalled can be
written. -/
theorem recallsWritable_run
    (shallow : ∀ now exchange, .remember now exchange ∈ operations →
      exchange.context.depth ≤ Memory.contextDepthLimit) :
    ((withSettings settings).run operations).RecallsWritable query options := by
  intro _
  refine List.all_eq_true.mpr fun conversation recalled => decide_eq_true ?_
  have remembered := List.mem_of_mem_drop (List.mem_filter.mp recalled).1
  obtain ⟨now, exchange, member, same⟩ := exchange_of_conversation remembered
  rw [← same]
  exact shallow now exchange member

/-! ### What is told of the project -/

/-- What a brief says of the project can be encoded: it is a text of characters. -/
def ProjectEncodable (session : Session) : Prop :=
  ∀ text, session.snapshot.metadata.name = some text ∨
    session.snapshot.metadata.description = some text → ∃ characters, text = .ofString characters

theorem mapM_encode_returns_iff (told : Option CodeText) :
    (∃ encoded, told.mapM CodeText.encode = .ok encoded) ↔
      ∀ text, told = some text → ∃ characters, text = .ofString characters := by
  cases told with
  | none => exact ⟨fun _ => nofun, fun _ => ⟨none, rfl⟩⟩
  | some text =>
    show (∃ encoded, text.encode.map some = .ok encoded) ↔ _
    simp only [map_eq_ok, CodeText.encode_eq_ok_iff, Option.some.injEq]
    constructor
    · rintro ⟨_, characters, same, -⟩ _ rfl
      exact ⟨characters, same⟩
    · intro encodable
      obtain ⟨characters, same⟩ := encodable text rfl
      exact ⟨_, characters, same, rfl⟩

theorem summary_returns_iff :
    (∃ project, session.snapshot.summary = .ok project) ↔ session.ProjectEncodable := by
  have name := mapM_encode_returns_iff session.snapshot.metadata.name
  have description := mapM_encode_returns_iff session.snapshot.metadata.description
  unfold ProjectEncodable Snapshot.summary
  constructor
  · rintro ⟨project, told⟩
    obtain ⟨_, ofName, rest⟩ := bind_eq_ok.mp told
    obtain ⟨_, ofDescription, -⟩ := bind_eq_ok.mp rest
    rintro text (isName | isDescription)
    · exact name.mp ⟨_, ofName⟩ text isName
    · exact description.mp ⟨_, ofDescription⟩ text isDescription
  · intro encodable
    obtain ⟨_, ofName⟩ := name.mpr fun text isName => encodable text (.inl isName)
    obtain ⟨_, ofDescription⟩ :=
      description.mpr fun text isDescription => encodable text (.inr isDescription)
    exact ⟨_, bind_eq_ok.mpr ⟨_, ofName, bind_eq_ok.mpr ⟨_, ofDescription, rfl⟩⟩⟩

/-! ### What has to be spelled -/

/-- The complexities that have to be spelled to bring a brief for a query to its size can be. -/
def ComplexitiesSpellable (session : Session) (query : String) (options : BriefOptions) : Prop :=
  ∀ room project,
    workingBudget session.settings.brief.metadataReserve (session.budgetFor options) = .ok room →
    session.snapshot.summary = .ok project →
      ((session.draft query options room project).measured (session.budgetFor options)).CanSpell
        (session.budgetFor options)

theorem isSpellable_of_le {n bound : Int} (positive : 0 ≤ n) (le : n ≤ bound)
    (spelled : Text.isSpellable bound = true) : Text.isSpellable n = true := by
  have smaller : n.natAbs ≤ bound.natAbs := by omega
  rw [Text.isSpellable_iff] at spelled ⊢
  exact Nat.lt_of_le_of_lt smaller spelled

/-- A budget that can be turned into a floating-point number has few digits. -/
theorem isSpellable_of_lt_overflowBound {budget : Int}
    (small : budget.natAbs < Binary64.overflowBound) : Text.isSpellable budget = true := by
  have few : Binary64.overflowBound ≤ Nat.pow 10 Text.digitLimit := by decide +kernel
  rw [Text.isSpellable_iff]
  exact Nat.lt_of_lt_of_le small few

/-- No function is more complex than the text that it stands in is long, so that its complexity can
be spelled if that length can be. -/
theorem complexitiesSpellable_of_lengths (held : session.HoldsContents)
    (lengths : ∀ path text, session.snapshot.index.files.get? path = some text →
      Text.isSpellable (text.length + 1) = true) :
    session.ComplexitiesSpellable query options := by
  obtain ⟨_, paths, files, read⟩ := held
  have index := Snapshot.index_ofContents read
  intro room project _ _ _ record selected
  obtain ⟨key, found⟩ := Selection.get?_of_mem_functions_choose _ _ selected
  rw [index] at found
  obtain ⟨content, isFile, positive, bound⟩ := Index.complexity_le_of_get? found
  have indexed : session.snapshot.index.files.get? record.path = some content := by
    rw [index]
    exact isFile
  have short := Script.complexityOf_le_length content.toList
  rw [String.length_toList] at short
  have spelled : Text.isSpellable record.complexity = true :=
    isSpellable_of_le positive (by omega) (lengths _ _ indexed)
  rw [FunctionRecord.isSummarizable, spelled, Bool.or_true]

/-! ### Putting a brief together -/

theorem assemble_of_overflow
    (large : Binary64.overflowBound ≤ (session.budgetFor options).natAbs) :
    session.assemble query options = .error (.budget .tooLarge) := by
  rw [assemble_eq, workingBudget_of_overflow _ large]
  rfl

section Share

variable (valid : session.settings.brief.metadataReserve.IsShare)
include valid

/-- **When there is no working budget**: just if the budget is too large. -/
theorem assemble_eq_tooLarge_iff :
    session.assemble query options = .error (.budget .tooLarge) ↔
      Binary64.overflowBound ≤ (session.budgetFor options).natAbs := by
  refine ⟨fun fails => ?_, assemble_of_overflow⟩
  rcases Nat.lt_or_ge (session.budgetFor options).natAbs Binary64.overflowBound with small | large
  · obtain ⟨room, working⟩ := exists_workingBudget valid small
    rw [assemble_eq, working] at fails
    -- What may go wrong from here on is told by other errors.
    cases told : session.snapshot.summary with
    | error error =>
      rw [told] at fails
      cases fails
    | ok project =>
      rw [told] at fails
      cases sized : (session.draft query options room project).withBudget
          (session.budgetFor options) with
      | error error =>
        exact absurd ((congrArg (Except.mapError BriefError.size) sized).symm.trans fails) nofun
      | ok brief =>
        exact absurd ((congrArg (Except.mapError BriefError.size) sized).symm.trans fails) nofun
  · exact large

/-- **When a session gives a brief**, if a share of the budget is set aside. -/
theorem assemble_returns_iff :
    (∃ brief, session.assemble query options = .ok brief) ↔
      (session.budgetFor options).natAbs < Binary64.overflowBound ∧ session.ProjectEncodable ∧
        session.RecallsWritable query options ∧ session.ComplexitiesSpellable query options := by
  simp only [assemble_eq_ok_iff]
  constructor
  · rintro ⟨brief, room, project, working, told, sized⟩
    have small : (session.budgetFor options).natAbs < Binary64.overflowBound := by
      refine Nat.lt_of_not_le fun large => ?_
      rw [workingBudget_of_overflow _ large] at working
      cases working
    have spelled := isSpellable_of_lt_overflowBound small
    obtain ⟨writable, spells⟩ := (Brief.withBudget_returns_iff spelled).mp ⟨brief, sized⟩
    rw [isWritable_draft_iff] at writable
    rw [← summary_returns_iff]
    refine ⟨small, ⟨project, told⟩, writable, fun room' project' working' told' => ?_⟩
    obtain rfl := Except.ok.inj (working.symm.trans working')
    obtain rfl := Except.ok.inj (told.symm.trans told')
    exact spells
  · rintro ⟨small, encodable, writable, spells⟩
    obtain ⟨room, working⟩ := exists_workingBudget valid small
    rw [← summary_returns_iff] at encodable
    obtain ⟨project, told⟩ := encodable
    rw [← isWritable_draft_iff room project] at writable
    have spelled := isSpellable_of_lt_overflowBound small
    obtain ⟨brief, sized⟩ := (Brief.withBudget_returns_iff spelled).mpr
      ⟨writable, spells room project working told⟩
    exact ⟨brief, room, project, working, told, sized⟩

end Share

/-! ### The briefs of a history -/

/-- The usual settings set aside a share. -/
theorem isShare_usual : ({} : Settings).brief.metadataReserve.IsShare := by
  unfold Binary64.IsShare
  decide +kernel

/-- A budget like any other, but for its size. -/
def hugeBudget : Int := 10 ^ 200 * 10 ^ 200

theorem overflowBound_le_hugeBudget : Binary64.overflowBound ≤ hugeBudget.natAbs := by
  decide +kernel

/-- There is no brief for it, with the usual settings and nothing analysed or remembered. -/
theorem not_given_hugeBudget :
    ({} : Settings).brief.metadataReserve.IsShare ∧ 1 ≤ hugeBudget ∧
      ¬ ∃ brief, (((withSettings {}).run []).brief "hello"
        { maxTokens := some hugeBudget }).2 = .ok brief := by
  refine ⟨isShare_usual, by decide +kernel, ?_⟩
  have refused : (((withSettings {}).run []).brief "hello" { maxTokens := some hugeBudget }).2 =
      .error (.budget .tooLarge) := assemble_of_overflow overflowBound_le_hugeBudget
  rintro ⟨brief, given⟩
  cases refused.symm.trans given

/-- **When there is a brief**, at any point of any history, for any query and options: just if the
budget is below the bound of the floating-point numbers, what is said of the project can be encoded,
what is recalled can be written, and the complexities that have to be spelled can be. What is recalled
can be written if nothing that went with an exchange of the history is nested too deep, and
complexities can be spelled if the lengths of the analysed texts can be. -/
theorem brief_given_iff (valid : settings.brief.metadataReserve.IsShare)
    (operations : List Operation) (query : String) (options : BriefOptions) :
    let session := (withSettings settings).run operations
    ((∃ brief, (session.brief query options).2 = .ok brief) ↔
      (session.budgetFor options).natAbs < Binary64.overflowBound ∧ session.ProjectEncodable ∧
        session.RecallsWritable query options ∧
        (session.focusOn options).ComplexitiesSpellable query options) ∧
    ((session.brief query options).2 = .error (.budget .tooLarge) ↔
      Binary64.overflowBound ≤ (session.budgetFor options).natAbs) ∧
    ((∀ now exchange, .remember now exchange ∈ operations →
        exchange.context.depth ≤ Memory.contextDepthLimit) →
      session.RecallsWritable query options) ∧
    ((∀ path text, session.snapshot.index.files.get? path = some text →
        Text.isSpellable (text.length + 1) = true) →
      (session.focusOn options).ComplexitiesSpellable query options) := by
  intro session
  have sameSettings : (session.focusOn options).settings = settings := by
    rw [focusOn_eq]
    exact settings_run _ operations
  have share : (session.focusOn options).settings.brief.metadataReserve.IsShare := by
    rw [sameSettings]
    exact valid
  have held : (session.focusOn options).HoldsContents :=
    (holdsContents_run (holdsContents_withSettings settings) operations).focusOn options
  have sameProject : (session.focusOn options).ProjectEncodable ↔ session.ProjectEncodable := by
    unfold ProjectEncodable
    rw [snapshot_focusOn]
  refine ⟨?_, ?_, recallsWritable_run, fun lengths => ?_⟩
  · rw [← sameProject, ← recallsWritable_focusOn, ← budgetFor_focusOn]
    exact assemble_returns_iff share
  · rw [← budgetFor_focusOn]
    exact assemble_eq_tooLarge_iff share
  · refine complexitiesSpellable_of_lengths held ?_
    rw [snapshot_focusOn]
    exact lengths

theorem brief_given_iff_smallHistory :
    ∃ brief, (((withSettings {}).run smallHistory).brief "fix login"
      { maxTokens := some 225 }).2 = .ok brief := by
  obtain ⟨given, -, shallow, short⟩ := brief_given_iff isShare_usual smallHistory "fix login"
    { maxTokens := some 225 }
  have small : (225 : Int).natAbs < Binary64.overflowBound := by decide +kernel
  have unnamed : ((withSettings {}).run smallHistory).snapshot.metadata.name = none ∧
      ((withSettings {}).run smallHistory).snapshot.metadata.description = none := by
    decide +kernel
  have lengths : ∀ entry ∈ ((withSettings {}).run smallHistory).snapshot.index.files.entries,
      entry.2.length + 1 ≤ 225 := by
    decide +kernel
  have spelled : Text.isSpellable 225 = true := isSpellable_of_lt_overflowBound small
  refine given.mpr ⟨small, fun text told => ?_, shallow fun now exchange member => ?_,
    short fun path text found => isSpellable_of_le (by omega) ?_ spelled⟩
  · rw [unnamed.1, unnamed.2] at told
    simp at told
  · simp [smallHistory] at member
  · exact_mod_cast lengths _ (Ledger.get?_eq_some_iff.mp found)

end CodeBrief.Session
