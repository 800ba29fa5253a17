/-
**A selection follows the ranking.**

* `namesFile_iff` — which keys stand for files.
* `files_prefix` — the files taken are the first ones of the ranking.
* `filterMap_admissions_sublist` — the functions and the classes are taken in the order of the
  ranking.
* `passed_over` — what is passed over for something later is a function or a class that does not
  fit.
* `admissions_of_room` — everything is taken if there is room for it.
* `choose_fillsInOrder` — all this for the selection for some scores.
-/

import CodeBrief.Proofs.Ranking
import CodeBrief.Proofs.Pattern.Replacement
import CodeBrief.Proofs.Selection.Admission

namespace CodeBrief.Selection

/-! ### Keys -/

/-- A key that names an indexed file. -/
def NamesFile (index : Index) (key : String) : Prop :=
  ¬ Relevance.functionPrefix.toList <+: key.toList ∧
    ¬ Relevance.classPrefix.toList <+: key.toList ∧ (index.files.get? key).isSome

instance (index : Index) (key : String) : Decidable (NamesFile index key) :=
  inferInstanceAs (Decidable (_ ∧ _ ∧ _))

theorem after?_eq_none {start key : String} :
    after? start key = none ↔ ¬ start.toList <+: key.toList := by
  unfold after?
  rw [Option.map_eq_none_iff, Option.eq_none_iff_forall_ne_some]
  refine ⟨fun none ⟨rest, same⟩ => ?_, fun apart rest dropped => ?_⟩
  · exact none rest (Pattern.dropPrefix?_eq_some.mpr same.symm)
  · exact apart ⟨rest, (Pattern.dropPrefix?_eq_some.mp dropped).symm⟩

/-- The keys that name files are those that stand for files. -/
theorem namesFile_iff {index : Index} {key : String} :
    NamesFile index key ↔ ∃ path content, itemOf index key = .file path content := by
  unfold NamesFile
  rw [← after?_eq_none, ← after?_eq_none]
  constructor
  · rintro ⟨noFunction, noClass, indexed⟩
    obtain ⟨content, found⟩ := Option.isSome_iff_exists.mp indexed
    exact ⟨key, content, by simp only [itemOf, noFunction, noClass, found]⟩
  · rintro ⟨path, content, item⟩
    unfold itemOf at item
    split at item
    · split at item <;> cases item
    · rename_i noFunction
      split at item
      · split at item <;> cases item
      · rename_i noClass
        split at item
        · rename_i found
          exact ⟨noFunction, noClass, by rw [found]; rfl⟩
        · cases item

/-! ### What is taken of an item -/

section Item

variable {budget used score : Int} {item : Item}

/-- Something of a file is taken in any case. -/
theorem admission?_file (path content : String) :
    ∃ file, admission? budget used score (.file path content) = some (.file file) ∧
      file.path = path := by
  unfold admission?
  split
  · exact ⟨_, rfl, rfl⟩
  · exact ⟨_, rfl, rfl⟩

/-- A file is taken for a file. -/
theorem item_of_file {file : SelectedFile}
    (taken : admission? budget used score item = some (.file file)) :
    ∃ content, item = .file file.path content := by
  rcases admission?_eq_some taken with ⟨-, whole⟩ | ⟨path, content, same, -, cut⟩
  · cases item <;> cases whole
    exact ⟨_, rfl⟩
  · cases cut
    exact ⟨content, same⟩

/-- The function, if the item is one. -/
def Item.function? : Item → Option FunctionRecord
  | .function record => some record
  | _ => none

/-- The class, if the item is one. -/
def Item.class? : Item → Option ClassRecord
  | .class record => some record
  | _ => none

/-- A function is taken as it is. -/
theorem function?_of_admission? {admission : Admission}
    (taken : admission? budget used score item = some admission) :
    admission.function? = item.function? := by
  rcases admission?_eq_some taken with ⟨-, whole⟩ | ⟨path, content, rfl, -, rfl⟩
  · cases item <;> cases whole <;> rfl
  · rfl

/-- A class is taken as it is. -/
theorem class?_of_admission? {admission : Admission}
    (taken : admission? budget used score item = some admission) :
    admission.class? = item.class? := by
  rcases admission?_eq_some taken with ⟨-, whole⟩ | ⟨path, content, rfl, -, rfl⟩
  · cases item <;> cases whole <;> rfl
  · rfl

/-- An item that is passed over is unknown, or it is a function or a class that does not fit. -/
theorem admission?_eq_none (skipped : admission? budget used score item = none) :
    item = .unknown ∨
      ((∃ record, item = .function record) ∨ ∃ record, item = .class record) ∧
        budget < used + item.tokens := by
  unfold admission? at skipped
  split at skipped
  · cases item <;> cases skipped
    exact Or.inl rfl
  · rename_i room
    cases item with
    | file path content => cases skipped
    | function record => exact Or.inr ⟨Or.inl ⟨record, rfl⟩, Int.not_le.mp room⟩
    | «class» record => exact Or.inr ⟨Or.inr ⟨record, rfl⟩, Int.not_le.mp room⟩
    | unknown => exact Or.inl rfl

end Item

/-! ### What a run takes -/

section Run

variable (index : Index) (budget : Int)

/-- **The files taken are the first ones of the ranking.** -/
theorem files_prefix (used : Int) (order : List (String × Int)) :
    ((admissions index budget used order).filterMap fun entry => entry.2.file?).map
        SelectedFile.path <+:
      (order.map Prod.fst).filter (NamesFile index) := by
  -- A file is never passed over while the run lasts, whatever else is.
  fun_induction admissions index budget used order with
  | case1 used => exact List.prefix_rfl
  | case2 used key score rest full => exact List.nil_prefix
  | case3 used key score rest room skipped ih =>
    have other : ¬ NamesFile index key := by
      intro names
      obtain ⟨path, content, item⟩ := namesFile_iff.mp names
      obtain ⟨file, taken, -⟩ := admission?_file path content
      rw [item, taken] at skipped
      cases skipped
    rw [List.map_cons, List.filter_cons_of_neg (by simpa using other)]
    exact ih
  | case4 used key score rest room admission taken ih =>
    rw [List.map_cons]
    by_cases names : NamesFile index key
    · obtain ⟨path, content, item⟩ := namesFile_iff.mp names
      obtain ⟨file, takenFile, samePath⟩ := admission?_file path content
      rw [item, takenFile] at taken
      cases taken
      rw [List.filter_cons_of_pos (by simpa using names)]
      exact List.cons_prefix_cons.mpr ⟨samePath.trans (itemOf_eq_file item).1, ih⟩
    · have noFile : admission.file? = none := by
        cases admission with
        | file file =>
          obtain ⟨content, item⟩ := item_of_file taken
          exact absurd (namesFile_iff.mpr ⟨_, _, item⟩) names
        | function record => rfl
        | «class» record => rfl
      rw [List.filter_cons_of_neg (by simpa using names), List.filterMap_cons]
      simp only [noFile]
      exact ih

/-- What is read off the things taken stands in the order of the ranking. -/
theorem filterMap_admissions_sublist {α : Type} {read : Admission → Option α}
    {readItem : Item → Option α}
    (same : ∀ {used score item admission}, admission? budget used score item = some admission →
      read admission = readItem item) (used : Int) (order : List (String × Int)) :
    ((admissions index budget used order).filterMap fun entry => read entry.2).Sublist
      (order.filterMap fun entry => readItem (itemOf index entry.1)) := by
  fun_induction admissions index budget used order with
  | case1 used => exact List.Sublist.slnil
  | case2 used key score rest full => exact List.nil_sublist _
  | case3 used key score rest room skipped ih =>
    rw [List.filterMap_cons]
    split
    · exact ih
    · exact ih.cons _
  | case4 used key score rest room admission taken ih =>
    rw [List.filterMap_cons, List.filterMap_cons]
    dsimp only
    rw [same taken]
    split
    · exact ih
    · exact ih.cons_cons _

/-- An item as a whole, under the key and with the score of its entry. -/
def wholeEntry (entry : String × Int) : Option (String × Admission) :=
  ((itemOf index entry.1).whole? entry.2).map fun admission => (entry.1, admission)

/-- **Everything is taken if there is room for it.** -/
theorem admissions_of_room {used : Int} {order : List (String × Int)}
    (room : used + (order.map fun entry => (itemOf index entry.1).tokens).sum < budget) :
    admissions index budget used order = order.filterMap (wholeEntry index) := by
  fun_induction admissions index budget used order with
  | case1 used => rfl
  | case2 used key score rest full => omega
  | case3 used key score rest _ skipped ih =>
    rw [List.map_cons, List.sum_cons] at room
    dsimp only at room
    have unknown : itemOf index key = .unknown := by
      rcases admission?_eq_none skipped with unknown | ⟨-, long⟩
      · exact unknown
      · omega
    rw [ih (by omega), List.filterMap_cons]
    simp only [wholeEntry, unknown, Item.whole?, Option.map_none]
  | case4 used key score rest _ admission taken ih =>
    rw [List.map_cons, List.sum_cons] at room
    dsimp only at room
    rcases admission?_eq_some taken with ⟨-, whole⟩ | ⟨path, content, item, long, -⟩
    · have tokens := (whole?_eq_some whole).1
      rw [ih (by omega), List.filterMap_cons]
      simp only [wholeEntry, whole, Option.map_some]
    · simp only [item, Item.tokens] at room
      omega

/-- **What is passed over does not fit**: if something ranked below it is taken, it is a function or
a class, and it takes more tokens than what is taken above it leaves. -/
theorem passed_over {used score : Int} {key : String} {above below : List (String × Int)}
    (distinct : ((above ++ (key, score) :: below).map Prod.fst).Nodup)
    (known : itemOf index key ≠ .unknown)
    (absent : key ∉ (admissions index budget used (above ++ (key, score) :: below)).map Prod.fst)
    (later : ∃ entry ∈ below,
      entry.1 ∈ (admissions index budget used (above ++ (key, score) :: below)).map Prod.fst) :
    ((∃ record, itemOf index key = .function record) ∨
        ∃ record, itemOf index key = .class record) ∧
      budget < used + spent ((admissions index budget used (above ++ (key, score) :: below)).filter
        fun taken => taken.1 ∈ above.map Prod.fst) + (itemOf index key).tokens := by
  -- The log splits into what is taken above the item and what is taken from it on.
  rw [admissions_append] at absent later ⊢
  generalize first : admissions index budget used above = before at absent later ⊢
  have beforeAbove : ∀ taken ∈ before, taken.1 ∈ above.map Prod.fst := by
    intro taken member
    rw [← first] at member
    exact (keys_admissions_sublist index budget used above).subset (List.mem_map_of_mem member)
  rw [List.map_append, List.nodup_append] at distinct
  obtain ⟨-, -, apart⟩ := distinct
  have notAbove : ∀ taken ∈ admissions index budget (used + spent before) ((key, score) :: below),
      taken.1 ∉ above.map Prod.fst := by
    intro taken member inside
    exact apart _ inside _
      ((keys_admissions_sublist index budget _ _).subset (List.mem_map_of_mem member)) rfl
  have counted : (before ++ admissions index budget (used + spent before)
      ((key, score) :: below)).filter (fun taken => taken.1 ∈ above.map Prod.fst) = before := by
    rw [List.filter_append, List.filter_eq_self.mpr (by simpa using beforeAbove),
      List.filter_eq_nil_iff.mpr (by simpa using notAbove), List.append_nil]
  rw [counted]
  rw [List.map_append, List.mem_append, not_or] at absent
  -- What is taken below is not named above, so that the run has come as far as the item.
  have room : used + spent before < budget := by
    by_contra full
    obtain ⟨entry, member, taken⟩ := later
    rw [admissions_of_le index budget (Int.not_lt.mp full), List.append_nil] at taken
    obtain ⟨earlier, inside, same⟩ := List.mem_map.mp taken
    refine apart _ (beforeAbove earlier inside) _ ?_ same
    exact List.mem_map_of_mem (List.mem_cons_of_mem _ member)
  cases skipped : admission? budget (used + spent before) score (itemOf index key) with
  | none => exact (admission?_eq_none skipped).resolve_left known
  | some admission =>
    rw [admissions_cons_some index budget room skipped] at absent
    exact absurd List.mem_cons_self absent.2

/-- The entry of an item that is known, as a whole. -/
theorem wholeEntry_isSome {key : String} (known : itemOf index key ≠ .unknown) (score : Int) :
    ∃ admission, wholeEntry index (key, score) = some (key, admission) := by
  unfold wholeEntry
  cases item : itemOf index key with
  | unknown => exact absurd item known
  | _ => exact ⟨_, rfl⟩

/-- Whole entries are not cut. -/
theorem isCut_of_wholeEntry {entry : String × Int} {taken : String × Admission}
    (whole : wholeEntry index entry = some taken) : taken.2.isCut = false := by
  obtain ⟨admission, same, rfl⟩ := Option.map_eq_some_iff.mp whole
  exact (whole?_eq_some same).2

end Run

/-! ### The selection for some scores -/

/-- The scores are visited as a ranking. -/
theorem isRanking_ranked (scores : List (String × Int)) :
    IsRanking Prod.snd scores (ranked scores) :=
  isRanking_sortBy Prod.snd scores

/-- A selection, of which a log tells what has been taken under which key, fills a budget in the
order of a ranking. -/
structure FillsInOrder (index : Index) (budget : Int) (order : List (String × Int))
    (log : List (String × Admission)) (selection : Selection) : Prop where
  /-- The selection is the log, read kind by kind. -/
  logged : selection =
    { files := log.filterMap fun taken => taken.2.file?
      functions := log.filterMap fun taken => taken.2.function?
      classes := log.filterMap fun taken => taken.2.class?
      tokensUsed := spent log
      tokenBudget := budget }
  /-- Things are taken in the order of the ranking. -/
  keys : (log.map Prod.fst).Sublist (order.map Prod.fst)
  /-- The files are the first ones of the ranking. -/
  files : selection.files.map SelectedFile.path <+: (order.map Prod.fst).filter (NamesFile index)
  /-- The functions stand in the order of the ranking. -/
  functions : selection.functions.Sublist
    (order.filterMap fun entry => (itemOf index entry.1).function?)
  /-- The classes stand in the order of the ranking. -/
  classes : selection.classes.Sublist
    (order.filterMap fun entry => (itemOf index entry.1).class?)
  /-- A known item that is passed over for something ranked below it is a function or a class, and
  it does not fit beside what is taken above it. -/
  passedOver : ∀ above key score below, order = above ++ (key, score) :: below →
    itemOf index key ≠ .unknown → key ∉ log.map Prod.fst →
    (∃ entry ∈ below, entry.1 ∈ log.map Prod.fst) →
    ((∃ record, itemOf index key = .function record) ∨
        ∃ record, itemOf index key = .class record) ∧
      budget < spent (log.filter fun taken => taken.1 ∈ above.map Prod.fst) +
        (itemOf index key).tokens
  /-- If there is room for every known item, each is taken once, and no file is cut down. -/
  everything : ((order.map fun entry => (itemOf index entry.1).tokens).sum : Int) < budget →
    (∀ key ∈ order.map Prod.fst, itemOf index key ≠ .unknown →
      (log.map Prod.fst).count key = 1) ∧
    ∀ file ∈ selection.files, file.summarized = false

/-- **A selection follows the ranking** of its scores by their height, ties in their order. -/
theorem choose_fillsInOrder (index : Index) (scores : Ledger Int) (budget : Int) :
    IsRanking Prod.snd scores.entries (ranked scores.entries) ∧
      FillsInOrder index budget (ranked scores.entries) (log index scores.entries budget)
        (choose index scores.entries budget) := by
  have ranking := isRanking_ranked scores.entries
  have distinct : ((ranked scores.entries).map Prod.fst).Nodup :=
    (ranking.perm.map Prod.fst).nodup_iff.mpr scores.distinct
  have keys := keys_admissions_sublist index budget 0 (ranked scores.entries)
  have logged := choose_eq index scores.entries budget
  refine ⟨ranking, ?_⟩
  constructor
  case logged => exact logged
  case keys => exact keys
  case files =>
    rw [logged]
    exact files_prefix index budget 0 _
  case functions =>
    rw [logged]
    exact filterMap_admissions_sublist index budget function?_of_admission? 0 _
  case classes =>
    rw [logged]
    exact filterMap_admissions_sublist index budget class?_of_admission? 0 _
  case passedOver =>
    intro above key score below order known absent later
    unfold log at absent later ⊢
    rw [order] at distinct absent later ⊢
    have passed := passed_over index budget distinct known absent later
    rwa [Int.zero_add] at passed
  case everything =>
    intro room
    have run : log index scores.entries budget =
        (ranked scores.entries).filterMap (wholeEntry index) :=
      admissions_of_room index budget (by rw [Int.zero_add]; exact room)
    constructor
    · intro key member known
      refine List.count_eq_one_of_mem (distinct.sublist keys) ?_
      obtain ⟨⟨key, score⟩, ranked, rfl⟩ := List.mem_map.mp member
      obtain ⟨admission, whole⟩ := wholeEntry_isSome index known score
      rw [run]
      exact List.mem_map_of_mem (List.mem_filterMap.mpr ⟨_, ranked, whole⟩)
    · rw [logged]
      refine summarized_of_uncut fun taken member => ?_
      rw [run] at member
      obtain ⟨entry, -, whole⟩ := List.mem_filterMap.mp member
      exact isCut_of_wholeEntry index whole

end CodeBrief.Selection
