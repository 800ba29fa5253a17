/-
**Texts without blank lines and repeated spaces.**

Collapsing the blanks of a text takes two rewritings, one after the other: a line feed with blanks up
to another line feed becomes one line feed, and then a run of spaces, tabs, form feeds and vertical
tabs becomes one space.

* `IsCollapsed` — the normal form: no tab of any kind, no two spaces next to each other, no two line
  feeds with only blanks between them.
* `isCollapsed_withoutWhitespace` — every text gets there.
* `withoutWhitespace_of_isCollapsed` — a text in normal form stays as it is.
* `visible_withoutWhitespace` — the other characters stay as they are.
* `collapseWhitespace_normalForm` — what follows for the step.

The second rewriting could bring back what the first one has removed only if it brought two line
feeds together. It does not: it keeps at least one blank wherever there was one, and touches no line
feed. In both inductions the claim on the text is therefore carried along with one on the blanks at
its head (`BreaksFirst`), as these meet what stands before.
-/

import CodeBrief.Proofs.Brief.FileTexts
import CodeBrief.Proofs.Brief.TextWeight
import CodeBrief.Proofs.Pattern.Matches
import CodeBrief.Proofs.Pattern.Rewriting

namespace CodeBrief

open Pattern

/-! ### The normal form -/

/-- No two line feeds have only blanks between them. -/
def HasSingleBreaks (text : List Char) : Prop :=
  ∀ gap, (∀ c ∈ gap, Text.isBlank c = true) → ¬ ('\n' :: gap ++ ['\n']) <:+: text

/-- A text without blank lines and with single spaces. -/
structure IsCollapsed (text : List Char) : Prop where
  /-- There is no tab, no vertical tab and no form feed. -/
  untabbed : ∀ c ∈ text, c ≠ '\t' ∧ c ≠ '\x0b' ∧ c ≠ '\x0c'
  /-- No space follows a space. -/
  singleSpaces : ¬ [' ', ' '] <:+: text
  /-- No line feed follows a line feed and blanks. -/
  singleBreaks : HasSingleBreaks text

/-! ### Blanks at the head -/

/-- A line feed stands among the blanks at the head of a text. -/
def BreaksFirst (text : List Char) : Prop :=
  '\n' ∈ text.takeWhile Text.isBlank

theorem breaksFirst_cons {c : Char} {rest : List Char} :
    BreaksFirst (c :: rest) ↔ c = '\n' ∨ (Text.isBlank c = true ∧ BreaksFirst rest) := by
  unfold BreaksFirst
  rw [List.takeWhile_cons]
  split
  · rename_i blank
    simp [blank, eq_comm]
  · rename_i visible
    have other : c ≠ '\n' := fun same => visible (same ▸ rfl)
    simp [visible, other]

/-- A line feed stands among the blanks at the head just if it comes after blanks only. -/
theorem breaksFirst_iff {text : List Char} :
    BreaksFirst text ↔ ∃ gap, (∀ c ∈ gap, Text.isBlank c = true) ∧ gap ++ ['\n'] <+: text := by
  constructor
  · intro inside
    obtain ⟨gap, rest, split⟩ := List.append_of_mem inside
    refine ⟨gap, fun c member => List.mem_takeWhile_imp (l := text) ?_, ?_⟩
    · rw [split]
      exact List.mem_append_left _ member
    · refine .trans ⟨rest, ?_⟩ (List.takeWhile_prefix Text.isBlank)
      rw [split, List.append_assoc, List.singleton_append]
  · rintro ⟨gap, blank, rest, rfl⟩
    unfold BreaksFirst
    rw [List.takeWhile_append_of_pos]
    · simp
    · intro c member
      rcases List.mem_append.mp member with inside | last
      · exact blank c inside
      · rw [List.mem_singleton.mp last]
        rfl

/-- Behind a run there is nothing more to take. -/
theorem takeWhile_dropWhile (test : Char → Bool) (text : List Char) :
    (text.dropWhile test).takeWhile test = [] :=
  List.takeWhile_eq_nil_iff.mpr (List.dropWhile_get_zero_not test text)

theorem hasSingleBreaks_nil : HasSingleBreaks [] :=
  fun gap _ inside => by simp at inside

/-- Line feeds are single if the first character is not one before another and the others are
single. -/
theorem hasSingleBreaks_cons {c : Char} {rest : List Char} :
    HasSingleBreaks (c :: rest) ↔ (c = '\n' → ¬ BreaksFirst rest) ∧ HasSingleBreaks rest := by
  constructor
  · intro single
    refine ⟨?_, fun gap blank inside => single gap blank (inside.trans ⟨[c], [], by simp⟩)⟩
    rintro rfl breaks
    obtain ⟨gap, blank, front⟩ := breaksFirst_iff.mp breaks
    exact single gap blank (List.cons_prefix_cons.mpr ⟨rfl, front⟩).isInfix
  · rintro ⟨first, later⟩ gap blank inside
    rcases List.infix_cons_iff.mp inside with front | inside
    · obtain ⟨same, front⟩ := List.cons_prefix_cons.mp front
      exact first same.symm (breaksFirst_iff.mpr ⟨gap, blank, front⟩)
    · exact later gap blank inside

theorem HasSingleBreaks.of_suffix {text back : List Char} (single : HasSingleBreaks text)
    (suffix : back <:+ text) : HasSingleBreaks back :=
  fun gap blank inside => single gap blank (inside.trans suffix.isInfix)

/-! ### What the two patterns take -/

theorem isInlineSpace_iff {c : Char} :
    isInlineSpace c = true ↔ c = ' ' ∨ c = '\t' ∨ c = '\x0b' ∨ c = '\x0c' := by
  have code : ∀ d : Char, c.toNat = d.toNat ↔ c = d := fun d => Char.toNat_inj
  simp only [isInlineSpace, Bool.or_eq_true, beq_iff_eq, or_assoc, ← code]
  rfl

theorem isBlank_of_isInlineSpace {c : Char} (inline : isInlineSpace c = true) :
    Text.isBlank c = true ∧ c ≠ '\n' := by
  rcases isInlineSpace_iff.mp inline with rfl | rfl | rfl | rfl <;> decide

theorem inlineSpaces_eq_some {text after : List Char} :
    inlineSpaces text = some ((), after) ↔
      1 ≤ (text.takeWhile isInlineSpace).length ∧ after = text.dropWhile isInlineSpace := by
  unfold inlineSpaces
  rw [bind_eq_some]
  constructor
  · rintro ⟨taken, rest, read, same⟩
    obtain ⟨enough, -, rfl⟩ := runOf_eq_some.mp read
    cases same
    exact ⟨enough, rfl⟩
  · rintro ⟨enough, rfl⟩
    exact ⟨_, _, runOf_eq_some.mpr ⟨enough, rfl, rfl⟩, rfl⟩

theorem not_isInlineSpace_of_unread {c : Char} {rest : List Char}
    (unread : inlineSpaces (c :: rest) = none) : isInlineSpace c = false := by
  by_contra inline
  rw [Bool.not_eq_false] at inline
  have read : inlineSpaces (c :: rest) = some ((), (c :: rest).dropWhile isInlineSpace) :=
    inlineSpaces_eq_some.mpr ⟨by simp [inline], rfl⟩
  rw [unread] at read
  cases read

theorem takes_inlineSpaces_only :
    Takes inlineSpaces fun taken => taken ≠ [] ∧ ∀ c ∈ taken, isInlineSpace c = true := by
  intro text value after read
  obtain ⟨enough, rfl⟩ := inlineSpaces_eq_some.mp read
  exact ⟨_, List.takeWhile_append_dropWhile.symm, List.ne_nil_of_length_pos enough,
    fun c member => List.mem_takeWhile_imp member⟩

theorem takesSome_inlineSpaces : Takes inlineSpaces (· ≠ []) :=
  takes_inlineSpaces_only.mono fun _ both => both.1

/-- A match of blank lines is a line feed whose blanks have another one, and goes up to the last
one. -/
theorem blankLines_eq_some {text after : List Char} :
    blankLines text = some ((), after) ↔
      ∃ rest left, text = '\n' :: rest ∧
        afterLastBreak? (rest.takeWhile Text.isBlank) = some left ∧
        after = left ++ rest.dropWhile Text.isBlank := by
  unfold blankLines
  rw [bind_eq_some]
  constructor
  · rintro ⟨_, rest, read, found⟩
    obtain ⟨left, last, same⟩ := Option.map_eq_some_iff.mp found
    cases same
    exact ⟨rest, left, literal_eq_some.mp read, last, rfl⟩
  · rintro ⟨rest, left, same, last, rfl⟩
    exact ⟨(), rest, literal_eq_some.mpr same, Option.map_eq_some_iff.mpr ⟨left, last, rfl⟩⟩

theorem afterLastBreak?_eq_none {gap : List Char} : afterLastBreak? gap = none ↔ '\n' ∉ gap := by
  simp [afterLastBreak?]

theorem not_mem_of_afterLastBreak? {gap left : List Char}
    (found : afterLastBreak? gap = some left) :
    '\n' ∉ left := by
  unfold afterLastBreak? at found
  split at found
  · cases found
    intro member
    have other := List.mem_takeWhile_imp (List.mem_reverse.mp member)
    simp at other
  · cases found

theorem not_breaksFirst_of_unread {rest : List Char} (unread : blankLines ('\n' :: rest) = none) :
    ¬ BreaksFirst rest := by
  intro breaks
  cases found : afterLastBreak? (rest.takeWhile Text.isBlank) with
  | none => exact afterLastBreak?_eq_none.mp found breaks
  | some left =>
    have read := blankLines_eq_some.mpr ⟨rest, left, rfl, found, rfl⟩
    rw [unread] at read
    cases read

/-- No line feed stands among the blanks after a match of blank lines. -/
theorem not_breaksFirst_of_read {text after : List Char}
    (read : blankLines text = some ((), after)) :
    ¬ BreaksFirst after := by
  obtain ⟨rest, left, -, found, rfl⟩ := blankLines_eq_some.mp read
  have blank : ∀ c ∈ left, Text.isBlank c = true := fun c member =>
    List.mem_takeWhile_imp ((afterLastBreak?_suffix found).subset member)
  unfold BreaksFirst
  rw [List.takeWhile_append_of_pos blank, takeWhile_dropWhile, List.append_nil]
  exact not_mem_of_afterLastBreak? found

theorem takesSome_blankLines : Takes blankLines (· ≠ []) := by
  refine takes_blankLines.mono ?_
  rintro taken ⟨gap, rfl⟩
  exact List.cons_ne_nil _ _

/-! ### The first rewriting -/

/-- **Without blank lines, line feeds are single.** -/
theorem hasSingleBreaks_replaceAll (text : List Char) :
    HasSingleBreaks (replaceAll blankLines ['\n'] text) := by
  suffices both : HasSingleBreaks (replaceAll blankLines ['\n'] text) ∧
      (¬ BreaksFirst text → ¬ BreaksFirst (replaceAll blankLines ['\n'] text)) from both.1
  refine replaceAll_induction takesSome_blankLines ['\n']
    (motive := fun text left => HasSingleBreaks left ∧ (¬ BreaksFirst text → ¬ BreaksFirst left))
    ⟨hasSingleBreaks_nil, id⟩ ?_ ?_ text
  · intro taken after _ read ⟨single, ahead⟩
    refine ⟨hasSingleBreaks_cons.mpr ⟨fun _ => ahead (not_breaksFirst_of_read read), single⟩, ?_⟩
    -- What is taken begins with a line feed.
    intro none
    obtain ⟨rest, left, same, -⟩ := blankLines_eq_some.mp read
    rw [same] at none
    exact absurd (breaksFirst_cons.mpr (Or.inl rfl)) none
  · intro c rest unread ⟨single, ahead⟩
    refine ⟨hasSingleBreaks_cons.mpr ⟨?_, single⟩, ?_⟩
    · rintro rfl
      exact ahead (not_breaksFirst_of_unread unread)
    · intro none breaks
      rw [breaksFirst_cons, not_or] at none
      rcases breaksFirst_cons.mp breaks with same | ⟨blank, later⟩
      · exact none.1 same
      · exact ahead (fun before => none.2 ⟨blank, before⟩) later

/-! ### The second rewriting -/

/-- Spaces at the head do not hide a line feed behind them. -/
theorem breaksFirst_append {taken after : List Char}
    (inline : ∀ c ∈ taken, isInlineSpace c = true) :
    BreaksFirst (taken ++ after) ↔ BreaksFirst after := by
  induction taken with
  | nil => rfl
  | cons c taken ih =>
    obtain ⟨blank, other⟩ := isBlank_of_isInlineSpace (inline c List.mem_cons_self)
    rw [List.cons_append, breaksFirst_cons,
      ih fun d member => inline d (List.mem_cons_of_mem c member)]
    simp [blank, other]

/-- **Single spaces leave line feeds as single as they were.** -/
theorem HasSingleBreaks.replaceAll_inlineSpaces {text : List Char} (single : HasSingleBreaks text) :
    HasSingleBreaks (replaceAll inlineSpaces [' '] text) := by
  suffices both : (HasSingleBreaks text → HasSingleBreaks (replaceAll inlineSpaces [' '] text)) ∧
      (BreaksFirst (replaceAll inlineSpaces [' '] text) → BreaksFirst text) from both.1 single
  refine replaceAll_induction takesSome_inlineSpaces [' ']
    (motive := fun text left => (HasSingleBreaks text → HasSingleBreaks left) ∧
      (BreaksFirst left → BreaksFirst text)) ⟨id, id⟩ ?_ ?_ text
  · intro taken after _ read ⟨keeps, ahead⟩
    obtain ⟨taken', same, -, inline⟩ := takes_inlineSpaces_only _ _ _ read
    rw [← List.append_cancel_right same] at inline
    refine ⟨fun single => hasSingleBreaks_cons.mpr
      ⟨fun same => absurd same (by decide), keeps (single.of_suffix (List.suffix_append _ _))⟩, ?_⟩
    intro breaks
    rcases breaksFirst_cons.mp breaks with same | ⟨-, later⟩
    · exact absurd same (by decide)
    · exact (breaksFirst_append inline).mpr (ahead later)
  · intro c rest _ ⟨keeps, ahead⟩
    refine ⟨fun single => ?_, fun breaks => ?_⟩
    · obtain ⟨first, later⟩ := hasSingleBreaks_cons.mp single
      exact hasSingleBreaks_cons.mpr ⟨fun same breaks => first same (ahead breaks), keeps later⟩
    · exact breaksFirst_cons.mpr ((breaksFirst_cons.mp breaks).imp_right (And.imp_right ahead))

/-- **With single spaces, no two spaces stand next to each other,** and there are no tabs. -/
theorem singleSpaces_replaceAll (text : List Char) :
    (∀ c ∈ replaceAll inlineSpaces [' '] text, isInlineSpace c = true → c = ' ') ∧
      ¬ [' ', ' '] <:+: replaceAll inlineSpaces [' '] text := by
  suffices all : (∀ c ∈ replaceAll inlineSpaces [' '] text, isInlineSpace c = true → c = ' ') ∧
      ¬ [' ', ' '] <:+: replaceAll inlineSpaces [' '] text ∧
      ([' '] <+: replaceAll inlineSpaces [' '] text →
        text.takeWhile isInlineSpace ≠ []) from ⟨all.1, all.2.1⟩
  refine replaceAll_induction takesSome_inlineSpaces [' ']
    (motive := fun text left => (∀ c ∈ left, isInlineSpace c = true → c = ' ') ∧
      ¬ [' ', ' '] <:+: left ∧ ([' '] <+: left → text.takeWhile isInlineSpace ≠ []))
    ⟨by simp, by simp, by simp⟩ ?_ ?_ text
  · intro taken after _ read ⟨only, apart, ahead⟩
    obtain ⟨enough, rest⟩ := inlineSpaces_eq_some.mp read
    refine ⟨?_, ?_, fun _ => List.ne_nil_of_length_pos enough⟩
    · rintro c member inline
      rcases List.mem_cons.mp member with rfl | later
      · rfl
      · exact only c later inline
    · intro inside
      rcases List.infix_cons_iff.mp inside with front | later
      · -- A second space would have been taken with the first one.
        refine ahead (List.cons_prefix_cons.mp front).2 ?_
        rw [rest, takeWhile_dropWhile]
      · exact apart later
  · intro c rest unread ⟨only, apart, ahead⟩
    have visible := not_isInlineSpace_of_unread unread
    have other : c ≠ ' ' := by
      rintro rfl
      cases visible
    refine ⟨?_, ?_, fun front => absurd (List.cons_prefix_cons.mp front).1.symm other⟩
    · rintro d member inline
      rcases List.mem_cons.mp member with rfl | later
      · rw [visible] at inline
        cases inline
      · exact only d later inline
    · intro inside
      rcases List.infix_cons_iff.mp inside with front | later
      · exact other (List.cons_prefix_cons.mp front).1.symm
      · exact apart later

/-! ### Both together -/

/-- **Collapsing brings every text into the normal form.** -/
theorem isCollapsed_withoutWhitespace (text : List Char) :
    IsCollapsed (withoutWhitespace text) := by
  obtain ⟨only, apart⟩ := singleSpaces_replaceAll (replaceAll blankLines ['\n'] text)
  refine ⟨fun c member => ?_, apart, (hasSingleBreaks_replaceAll text).replaceAll_inlineSpaces⟩
  have space := only c member
  rw [isInlineSpace_iff] at space
  refine ⟨?_, ?_, ?_⟩ <;> rintro rfl <;> exact absurd (space (by simp)) (by decide)

/-- A text in normal form has no match of either pattern that reads unlike its replacement. -/
theorem withoutWhitespace_of_isCollapsed {text : List Char} (collapsed : IsCollapsed text) :
    withoutWhitespace text = text := by
  have lines : replaceAll blankLines ['\n'] text = text := by
    refine replaceAll_eq_self takesSome_blankLines fun back after suffix read => ?_
    obtain ⟨rest, left, rfl, found, -⟩ := blankLines_eq_some.mp read
    have single := hasSingleBreaks_cons.mp (collapsed.singleBreaks.of_suffix suffix)
    have breaks : BreaksFirst rest := by
      by_contra none
      rw [afterLastBreak?_eq_none.mpr none] at found
      cases found
    exact absurd breaks (single.1 rfl)
  unfold withoutWhitespace
  rw [lines]
  refine replaceAll_eq_self takesSome_inlineSpaces fun back after suffix read => ?_
  obtain ⟨taken, rfl, long, inline⟩ := takes_inlineSpaces_only _ _ _ read
  have onlySpaces : ∀ c ∈ taken, c = ' ' := by
    intro c member
    have untabbed := collapsed.untabbed c (suffix.subset (List.mem_append_left _ member))
    rcases isInlineSpace_iff.mp (inline c member) with same | same | same | same
    · exact same
    · exact absurd same untabbed.1
    · exact absurd same untabbed.2.1
    · exact absurd same untabbed.2.2
  -- A run of two spaces or more would have two next to each other.
  match taken, long, onlySpaces with
  | [c], _, spaces => rw [spaces c List.mem_cons_self]
  | c :: d :: rest, _, spaces =>
    refine absurd ?_ collapsed.singleSpaces
    refine .trans ⟨[], rest ++ after, ?_⟩ suffix.isInfix
    rw [spaces c (by simp), spaces d (by simp)]
    rfl

/-- **The characters that are no blanks stay as they are.** -/
theorem visible_withoutWhitespace (text : List Char) :
    (withoutWhitespace text).filter (!Text.isBlank ·) = text.filter (!Text.isBlank ·) := by
  have lines : Takes blankLines fun taken => taken ≠ [] ∧
      taken.filter (!Text.isBlank ·) = ['\n'].filter (!Text.isBlank ·) := by
    intro text value after read
    obtain ⟨rest, left, rfl, found, rfl⟩ := blankLines_eq_some.mp read
    obtain ⟨front, whole⟩ := afterLastBreak?_suffix found
    refine ⟨'\n' :: front, ?_, List.cons_ne_nil _ _, ?_⟩
    · rw [List.cons_append, ← List.append_assoc, whole, List.takeWhile_append_dropWhile]
    · refine List.filter_eq_nil_iff.mpr fun c member => ?_
      have blank : Text.isBlank c = true := by
        rcases List.mem_cons.mp member with rfl | inside
        · rfl
        · refine List.mem_takeWhile_imp (l := rest) ?_
          rw [← whole]
          exact List.mem_append_left _ inside
      simp [blank]
  have spaces : Takes inlineSpaces fun taken => taken ≠ [] ∧
      taken.filter (!Text.isBlank ·) = [' '].filter (!Text.isBlank ·) := by
    refine takes_inlineSpaces_only.mono fun taken ⟨long, inline⟩ => ⟨long, ?_⟩
    refine List.filter_eq_nil_iff.mpr fun c member => ?_
    simp [(isBlank_of_isInlineSpace (inline c member)).1]
  exact (filter_replaceAll spaces _).trans (filter_replaceAll lines text)

namespace Brief

/-- **Collapsing brings the files of a brief into a normal form.** Every file out of which nothing
has been cut has then a text in normal form, in which the characters that are no blanks are the same
as before; nothing else is changed, and taking the step again changes nothing at all. -/
theorem collapseWhitespace_normalForm (brief : Brief) :
    let collapsed := CompressionStep.collapseWhitespace.apply brief
    collapsed = { brief with files := collapsed.files } ∧
    List.Forall₂ (SelectedFile.Rewritten fun text left => IsCollapsed left ∧
      left.filter (!Text.isBlank ·) = text.filter (!Text.isBlank ·)) brief.files collapsed.files ∧
    CompressionStep.collapseWhitespace.apply collapsed = collapsed := by
  intro collapsed
  have files : List.Forall₂ (SelectedFile.Rewritten fun text left => IsCollapsed left ∧
      left.filter (!Text.isBlank ·) = text.filter (!Text.isBlank ·)) brief.files collapsed.files :=
    rewritten_changeTexts
      (fun text => ⟨isCollapsed_withoutWhitespace text, visible_withoutWhitespace text⟩) brief.files
  have twice := (changeTexts_twice_iff brief.files).mpr fun file _ _ =>
    withoutWhitespace_of_isCollapsed (isCollapsed_withoutWhitespace file.content.toList)
  exact ⟨rfl, files, congrArg (fun files => { brief with files }) twice⟩

end Brief

end CodeBrief
