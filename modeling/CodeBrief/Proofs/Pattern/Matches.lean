/-
**Where matches stand.**

A match of a pattern is told by the number of characters before it: the text before it, what the
pattern took and the rest follow from that number. So matches of two patterns that stand at the same
place have read the same text.

* `read_of_mem_allMatches` — the pattern has read each match at its place.
* `bind_eq_some`, `literal_eq_some`, `runOf_eq_some` — when a reader reads a text, and what it leaves.
* `Takes.bind_ends` — what readers take one after another ends as the last one settles;
  `Takes.orElse` — what either of two readers takes.
-/

import CodeBrief.Proofs.Pattern.Replacement
import CodeBrief.Proofs.Pattern.Values

namespace CodeBrief.Pattern

/-! ### Matches -/

section Matches

variable {α : Type} {find : Finder α} {text : List Char} {hit : Match α}

theorem split_of_mem_matchesFrom {before : List Char} {skip : Nat}
    (member : hit ∈ matchesFrom find before skip text) :
    ∃ rest, before.reverse ++ text = hit.before.reverse ++ rest ∧
      find hit.before rest = some (hit.value, hit.after) := by
  fun_induction matchesFrom find before skip text with
  | case1 before skip => exact absurd member List.not_mem_nil
  | case2 before skip c rest ih =>
    -- A character that a match has taken goes over to the text before.
    have inside := ih member
    simpa using inside
  | case3 before c rest value after matched ih =>
    rcases List.mem_cons.mp member with rfl | later
    · exact ⟨c :: rest, rfl, matched⟩
    · have inside := ih later
      simpa using inside
  | case4 before c rest unmatched ih =>
    have inside := ih member
    simpa using inside

/-- **The pattern has read each match at its place.** -/
theorem read_of_mem_allMatches (member : hit ∈ allMatches find text) :
    hit.before = (text.take hit.before.length).reverse ∧
      find hit.before (text.drop hit.before.length) = some (hit.value, hit.after) := by
  obtain ⟨rest, whole, read⟩ := split_of_mem_matchesFrom member
  rw [List.reverse_nil, List.nil_append] at whole
  have front : text.take hit.before.length = hit.before.reverse := by
    rw [whole, ← List.length_reverse, List.take_left']
    rfl
  have back : text.drop hit.before.length = rest := by
    rw [whole, ← List.length_reverse, List.drop_left']
    rfl
  rw [front, back, List.reverse_reverse]
  exact ⟨rfl, read⟩

end Matches

/-! ### Readers -/

section Readers

variable {α β : Type} {text after : List Char}

theorem bind_eq_some {first : Reader α} {second : α → Reader β} {value : β} :
    (first >>= second) text = some (value, after) ↔
      ∃ middle rest, first text = some (middle, rest) ∧
        second middle rest = some (value, after) := by
  constructor
  · intro read
    obtain ⟨⟨middle, rest⟩, one, two⟩ := Option.bind_eq_some_iff.mp read
    exact ⟨middle, rest, one, two⟩
  · rintro ⟨middle, rest, one, two⟩
    exact Option.bind_eq_some_iff.mpr ⟨(middle, rest), one, two⟩

theorem literal_eq_some {expected : String} {value : Unit} :
    literal expected text = some (value, after) ↔ text = expected.toList ++ after := by
  rw [← dropPrefix?_eq_some]
  simp [literal]

theorem runOf_eq_some {least : Nat} {test : Char → Bool} {value : List Char} :
    runOf least test text = some (value, after) ↔
      least ≤ (text.takeWhile test).length ∧ value = text.takeWhile test ∧
        after = text.dropWhile test := by
  by_cases few : (text.takeWhile test).length < least
  · have none : ¬ least ≤ (text.takeWhile test).length := Nat.not_le.mpr few
    simp [runOf, few, none]
  · have enough : least ≤ (text.takeWhile test).length := Nat.not_lt.mp few
    simp [runOf, few, enough, eq_comm]

end Readers

/-! ### How what is taken ends -/

section Ends

variable {α β : Type} {last : List Char}

/-- The reader that comes last settles the end. -/
theorem Takes.bind_ends {first : Reader α} {second : α → Reader β}
    (takes : Takes first fun _ => True)
    (ends : ∀ value, Takes (second value) fun taken => last <:+ taken) :
    Takes (first >>= second) fun taken => last <:+ taken := by
  refine (takes.bind ends).mono ?_
  rintro taken ⟨left, right, rfl, -, isEnd⟩
  exact isEnd.trans (List.suffix_append left right)

theorem Takes.bind_any {first : Reader α} {second : α → Reader β}
    (takes : Takes first fun _ => True) (takes' : ∀ value, Takes (second value) fun _ => True) :
    Takes (first >>= second) fun _ => True :=
  (takes.bind takes').mono fun _ _ => trivial

/-- What is handed on changes nothing about what is taken. -/
theorem Takes.bind_pure {reader : Reader α} {holds : List Char → Prop} (takes : Takes reader holds)
    (value : α → β) : Takes (reader >>= fun middle => pure (value middle)) holds := by
  refine (takes.bind fun middle => takes_pure (value middle)).mono ?_
  rintro taken ⟨left, right, rfl, leftHolds, rfl⟩
  rw [List.append_nil]
  exact leftHolds

/-- Either of two readers. -/
theorem Takes.orElse {first second : Reader α} {holds : List Char → Prop}
    (takes : Takes first holds) (takes' : Takes second holds) : Takes (first <|> second) holds := by
  intro text value after read
  change (first text).orElse (fun _ => second text) = some (value, after) at read
  cases one : first text with
  | none =>
    rw [one] at read
    exact takes' _ _ _ read
  | some result =>
    rw [one] at read
    cases read
    exact takes _ _ _ one

theorem takes_any_literal (expected : String) : Takes (literal expected) fun _ => True :=
  (takes_literal expected).mono fun _ _ => trivial

theorem takes_any_pure (value : α) : Takes (pure value) fun _ => True :=
  (takes_pure value).mono fun _ _ => trivial

theorem takes_any_run (test : Char → Bool) : Takes (run test) fun _ => True :=
  (takes_run test).mono fun _ _ => trivial

theorem takes_any_runOf (least : Nat) (test : Char → Bool) :
    Takes (runOf least test) fun _ => True :=
  (takes_runOf least test).mono fun _ _ => trivial

theorem takes_any_oneOf (choices : List String) : Takes (oneOf choices) fun _ => True := by
  induction choices with
  | nil => exact fun _ _ _ read => by cases read
  | cons choice others ih =>
    intro text value after read
    simp only [oneOf] at read
    split at read
    · rename_i rest dropped
      cases read
      exact ⟨choice.toList, dropPrefix?_eq_some.mp dropped, trivial⟩
    · exact ih _ _ _ read

theorem takes_charWhere (test : Char → Bool) : Takes (charWhere test) fun _ => True := by
  intro text value after read
  cases text with
  | nil => cases read
  | cons c rest =>
    simp only [charWhere] at read
    split at read
    · cases read
      exact ⟨[value], rfl, trivial⟩
    · cases read

/-- Blanks are taken where blanks are read. -/
theorem takes_blanks_all : Takes blanks fun taken => ∀ c ∈ taken, Text.isBlank c = true :=
  (takes_run _).bind_pure fun _ => ()

theorem takes_someBlanks_all : Takes someBlanks fun taken => ∀ c ∈ taken, Text.isBlank c = true :=
  ((takes_runOf _ _).mono fun _ both => both.2).bind_pure fun _ => ()

theorem takes_blanks : Takes blanks fun _ => True :=
  takes_blanks_all.mono fun _ _ => trivial

theorem takes_someBlanks : Takes someBlanks fun _ => True :=
  takes_someBlanks_all.mono fun _ _ => trivial

theorem takes_word_all : Takes word fun taken => ∀ c ∈ taken, Text.isWord c = true :=
  ((takes_runOf _ _).mono fun _ both => both.2).bind_pure String.ofList

theorem takes_word : Takes word fun _ => True :=
  takes_word_all.mono fun _ _ => trivial

theorem takes_enclosed (opening closing : Char) : Takes (enclosed opening closing) fun _ => True :=
  (takes_charWhere _).bind_any fun _ => (takes_any_run _).bind_any fun _ =>
    (takes_charWhere _).bind_any fun _ => takes_any_pure _

theorem takes_quotedText : Takes quotedText fun _ => True :=
  (takes_charWhere _).bind_any fun _ => (takes_any_runOf _ _).bind_any fun _ =>
    (takes_charWhere _).bind_any fun _ => takes_any_pure _

end Ends

end CodeBrief.Pattern
