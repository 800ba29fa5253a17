/-
**What the parts of an intent have to do with each other, and with the case of letters.**

The kind and the scope of a query are read off the words that it mentions, letter by letter and
whatever their case, and the action off its lower-case form. Both ways do not depend on the case of
ASCII letters, and what is found in the lower-case form is also mentioned. So the kind agrees with
the action: a query that asks to fix something is about a fault, and one that asks to create or add
something is about a fault or something new.

* `classify_toLower` — the intent of a query in small letters.
* `mentions_of_action` — the action is mentioned.
* `kind_of_mentions_debugging`, `kind_of_mentions_creation` — the kind that follows from a word.
* `classify_agrees` — the agreement of intents that differ in case only, and of action and kind.
-/

import CodeBrief.Proofs.Pattern.Renaming
import CodeBrief.Proofs.Text.LetterCase
import CodeBrief.Query.Intent

namespace CodeBrief.Intent

/-! ### The case of letters -/

theorem firstRule_map_toLower {α : Type} (query : List Char) (rules : List (List String × α))
    (otherwise : α) :
    firstRule (query.map Char.toLower) rules otherwise = firstRule query rules otherwise := by
  unfold firstRule
  simp only [Text.mentions_map_toLower]

/-- The first rule applies if one of its words is mentioned. -/
theorem firstRule_cons {α : Type} (query : List Char) (words : List String) (result : α)
    (rules : List (List String × α)) (otherwise : α) :
    firstRule query ((words, result) :: rules) otherwise =
      if words.any fun word => Text.mentions word.toList query then result
      else firstRule query rules otherwise := by
  unfold firstRule
  by_cases applies : (words.any fun word => Text.mentions word.toList query) = true
  · rw [List.find?_cons_of_pos (by exact applies), if_pos applies]
  · rw [List.find?_cons_of_neg (by exact applies), if_neg applies]

theorem toLower_eq_dot (c : Char) : c.toLower = '.' ↔ c = '.' :=
  iff_of_eq (Text.apply_toLower (f := (· = '.')) (by decide) c)

theorem toList_toLower (text : String) : text.toLower.toList = text.toList.map Char.toLower :=
  String.toList_map

open Pattern in
/-- A target is read whatever its case. -/
theorem readsAlike_target : ReadsAlike Char.toLower String.toLower target target := by
  have letters := readsAlike_runOf Text.isAsciiWord_toLower 1
  have dot : ReadsAlike Char.toLower id (literal ".") (literal ".") :=
    readsAlike_literal fun e member c => by
      rw [List.mem_singleton.mp member]
      exact toLower_eq_dot c
  refine letters.bind fun left => dot.bind fun _ => letters.bind fun right => readsAlike_pure ?_
  rw [← String.toList_inj, toList_toLower]
  simp

/-- **The intent of a query in small letters**: only the targets tell that it is. -/
theorem classify_toLower (query : String) :
    classify query.toLower =
      { classify query with targets := (classify query).targets.map String.toLower } := by
  unfold classify
  simp only [toList_toLower, firstRule_map_toLower, Text.lower_map_toLower,
    Pattern.found_map readsAlike_target]

/-! ### Action and kind -/

/-- Words in small letters. -/
theorem isLower_actionWords : ∀ word ∈ actionWords,
    word.toList ≠ [] ∧ word.toList.all Char.isLower = true := by
  decide

/-- **The action is mentioned.** -/
theorem mentions_of_action {query action : String} (asked : (classify query).action = some action) :
    Text.mentions action.toList query.toList = true := by
  have found : (actionWords.find? fun word : String =>
      Text.occursIn word.toList (Text.lower query.toList)) = some action := asked
  obtain ⟨nonempty, small⟩ := isLower_actionWords action (List.mem_of_find?_eq_some found)
  exact Text.mentions_of_occursIn_lower (List.all_eq_true.mp small) nonempty
    (List.find?_some (p := fun word : String => Text.occursIn word.toList _) found)

/-- The words that show that a query is about a fault. -/
theorem kind_of_mentions_debugging {query word : String}
    (listed : word ∈ ["fix", "bug", "error", "issue"])
    (mentioned : Text.mentions word.toList query.toList = true) :
    (classify query).kind = .debugging := by
  have applies : (["fix", "bug", "error", "issue"].any fun word =>
      Text.mentions word.toList query.toList) = true :=
    List.any_eq_true.mpr ⟨word, listed, mentioned⟩
  show firstRule query.toList kindRules .general = .debugging
  rw [kindRules, firstRule_cons, if_pos applies]

/-- The words that show that a query is about something new, unless it is about a fault. -/
theorem kind_of_mentions_creation {query word : String}
    (listed : word ∈ ["create", "add", "implement", "build"])
    (mentioned : Text.mentions word.toList query.toList = true) :
    (classify query).kind = .debugging ∨ (classify query).kind = .creation := by
  have applies : (["create", "add", "implement", "build"].any fun word =>
      Text.mentions word.toList query.toList) = true :=
    List.any_eq_true.mpr ⟨word, listed, mentioned⟩
  show firstRule query.toList kindRules .general = .debugging ∨
    firstRule query.toList kindRules .general = .creation
  rw [kindRules, firstRule_cons, firstRule_cons, if_pos applies]
  split
  · exact Or.inl rfl
  · exact Or.inr rfl

/-! ### Agreement -/

/-- **Intents agree.** Queries that differ in nothing but the case of ASCII letters have the same
kind, action and scope, and their targets are the same one by one but for case. A query whose action
is to fix is about a fault; one whose action is to create or to add is about a fault or about
something new. -/
theorem classify_agrees (query : String) :
    (∀ other : String, other.toLower = query.toLower →
      (classify other).kind = (classify query).kind ∧
        (classify other).action = (classify query).action ∧
        (classify other).scope = (classify query).scope ∧
        (classify other).targets.map String.toLower =
          (classify query).targets.map String.toLower) ∧
      ((classify query).action = some "fix" → (classify query).kind = .debugging) ∧
      ((classify query).action = some "create" ∨ (classify query).action = some "add" →
        (classify query).kind = .debugging ∨ (classify query).kind = .creation) := by
  refine ⟨fun other same => ?_, fun asked => ?_, fun asked => ?_⟩
  · have small := classify_toLower other
    rw [same, classify_toLower query, Intent.mk.injEq] at small
    obtain ⟨kind, targets, action, scope⟩ := small
    exact ⟨kind.symm, action.symm, scope.symm, targets.symm⟩
  · exact kind_of_mentions_debugging (by decide) (mentions_of_action asked)
  · rcases asked with create | add
    · exact kind_of_mentions_creation (by decide) (mentions_of_action create)
    · exact kind_of_mentions_creation (by decide) (mentions_of_action add)

/-- Queries in capitals and in small letters, with letters beyond ASCII. -/
theorem classify_agrees_capitals :
    let query := "add ΑΣ.JS and login.Form"
    let other := "ADD ΑΣ.js and Login.form"
    let fault := "the İSSUE: FIX it"
    other.toLower = query.toLower ∧ (classify query).action = some "add" ∧
      (classify other).action = some "add" ∧ (classify query).kind = .creation ∧
      (classify other).targets.map String.toLower = ["login.Form".toLower] ∧
      (classify fault).action = some "fix" ∧ (classify fault).kind = .debugging := by
  intro query other fault
  have letters : other.toList.map Char.toLower = query.toList.map Char.toLower := by
    decide +kernel
  have same : other.toLower = query.toLower := by
    rw [← String.toList_inj, toList_toLower, toList_toLower, letters]
  have asked : (classify query).action = some "add" := by decide +kernel
  have isNew : (classify query).kind ≠ .debugging := by decide +kernel
  have named : (classify query).targets = ["login.Form"] := by decide +kernel
  have mends : (classify fault).action = some "fix" := by decide +kernel
  obtain ⟨-, action, -, targets⟩ := (classify_agrees query).1 other same
  have kind := (classify_agrees query).2.2 (Or.inr asked)
  rw [named] at targets
  exact ⟨same, asked, action.trans asked, kind.resolve_left isNew, targets, mends,
    (classify_agrees fault).2.1 mends⟩

end CodeBrief.Intent
