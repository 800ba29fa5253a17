/-
**Removing comments and blanks makes a text no heavier.**

Comments are replaced by nothing. Blank lines are replaced by the line feed that they begin with,
and blanks within a line by one space, which weighs no more than any other character.

* `takes_blockComment`, `takes_lineComment`, `takes_blankLines`, `takes_inlineSpaces` — what the
  four patterns take.
* `textWeight_withoutComments_le`, `textWeight_withoutWhitespace_le` — the two changes of a text.
-/

import CodeBrief.Brief.Compression
import CodeBrief.Proofs.Pattern.Replacement

namespace CodeBrief

open Pattern

/-! ### What the patterns take -/

theorem takes_toBlockEnd : Takes toBlockEnd fun _ => True := by
  intro text
  induction text with
  | nil =>
    intro value after taken
    cases taken
  | cons c rest ih =>
    intro value after taken
    unfold toBlockEnd at taken
    split at taken
    · cases taken
    · rename_i same
      cases taken
      exact ⟨['*', '/'], same, trivial⟩
    · rename_i same
      cases same
      obtain ⟨piece, same, _⟩ := ih _ _ taken
      exact ⟨c :: piece, by rw [same, List.cons_append], trivial⟩

theorem takes_blockComment : Takes blockComment fun _ => True :=
  ((takes_literal "/*").bind fun _ => takes_toBlockEnd).mono fun _ _ => trivial

theorem takes_lineComment : Takes lineComment fun _ => True :=
  ((takes_literal "//").bind fun _ => (takes_run _).bind fun _ => takes_pure ()).mono
    fun _ _ => trivial

/-- What is left after the last line feed stands at the end. -/
theorem afterLastBreak?_suffix {gap rest : List Char} (found : afterLastBreak? gap = some rest) :
    rest <:+ gap := by
  unfold afterLastBreak? at found
  split at found
  · cases found
    rw [← List.reverse_prefix, List.reverse_reverse]
    exact List.takeWhile_prefix _
  · cases found

/-- Blank lines begin with a line feed. -/
theorem takes_blankLines : Takes blankLines fun taken => ∃ gap, taken = '\n' :: gap := by
  have takesGap : Takes (fun text =>
      (afterLastBreak? (text.takeWhile Text.isBlank)).map fun rest =>
        ((), rest ++ text.dropWhile Text.isBlank)) fun _ => True := by
    intro text value after taken
    obtain ⟨rest, found, same⟩ := Option.map_eq_some_iff.mp taken
    cases same
    obtain ⟨gap, whole⟩ := afterLastBreak?_suffix found
    refine ⟨gap, ?_, trivial⟩
    rw [← List.append_assoc, whole, List.takeWhile_append_dropWhile]
  refine ((takes_literal "\n").bind fun _ => takesGap).mono ?_
  rintro taken ⟨left, right, rfl, rfl, _⟩
  exact ⟨right, rfl⟩

theorem takes_inlineSpaces : Takes inlineSpaces fun taken => 1 ≤ taken.length := by
  refine ((takes_runOf 1 isInlineSpace).bind fun _ => takes_pure ()).mono ?_
  rintro taken ⟨left, right, rfl, ⟨long, _⟩, rfl⟩
  rw [List.append_nil]
  exact long

/-! ### Weights -/

section Weight

variable (weight : Char → Nat)

theorem textWeight_withoutComments_le (text : List Char) :
    textWeight weight (withoutComments text) ≤ textWeight weight text := by
  have block : Takes blockComment fun taken => textWeight weight [] ≤ textWeight weight taken :=
    takes_blockComment.mono fun _ _ => Nat.zero_le _
  have line : Takes lineComment fun taken => textWeight weight [] ≤ textWeight weight taken :=
    takes_lineComment.mono fun _ _ => Nat.zero_le _
  exact (textWeight_replaceAll_le weight line _).trans (textWeight_replaceAll_le weight block text)

/-- No character may weigh less than a space, which takes the place of other blanks. -/
theorem textWeight_withoutWhitespace_le (lightSpace : ∀ c, weight ' ' ≤ weight c)
    (text : List Char) : textWeight weight (withoutWhitespace text) ≤ textWeight weight text := by
  have lines : Takes blankLines fun taken =>
      textWeight weight ['\n'] ≤ textWeight weight taken := by
    refine takes_blankLines.mono ?_
    rintro taken ⟨gap, rfl⟩
    simp
  have spaces : Takes inlineSpaces fun taken =>
      textWeight weight [' '] ≤ textWeight weight taken := by
    refine takes_inlineSpaces.mono fun taken long => ?_
    cases taken with
    | nil => cases long
    | cons c rest =>
      simp only [textWeight_cons, textWeight_nil]
      exact Nat.add_le_add (lightSpace c) (Nat.zero_le _)
  exact (textWeight_replaceAll_le weight spaces _).trans
    (textWeight_replaceAll_le weight lines text)

end Weight

end CodeBrief
