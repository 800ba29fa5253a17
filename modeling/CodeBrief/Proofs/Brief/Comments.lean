/-
**Which comments are left when comments are left out.**

Block comments are left out first, from the left and without overlap, and then line comments. What
stands before a block comment and what stands after it come together, and no one looks at the place
again: a slash and an asterisk that meet there begin a block comment, which is left if it is closed
later on.

* `HoldsBlockComment` — there is a block comment in a text.
* `JoinsComment` — a slash and an asterisk that begin one meet where a block comment has stood.
* `not_doubleSlash_withoutComments` — no line comment is ever left.
* `holdsBlockComment_withoutComments_iff` — a block comment is left just if one has been joined.
* `withoutComments_twice_iff` — leaving comments out again changes nothing just if none is left.
* `stripComments_leaves_iff` — what follows for the step; `not_stripped_joinedComment` — a text out
  of which not all comments are taken.

A block comment in what is left is traced back in two moves: through the line comments, which cannot
bring two characters together (the line feed stays), and through the block comments, where the two
characters that begin it either stood side by side, so that it would have been left out, or on two
sides of a comment.
-/

import CodeBrief.Proofs.Brief.FileTexts
import CodeBrief.Proofs.Brief.TextWeight
import CodeBrief.Proofs.Pattern.Rewriting

namespace CodeBrief

open Pattern

/-! ### Line comments -/

/-- A text ends its line: nothing follows, or a line feed does. -/
def EndsLine (text : List Char) : Prop :=
  ∀ c rest, text = c :: rest → c = '\n'

/-- The first character decides. -/
theorem EndsLine.of_head {c : Char} {rest : List Char} (ends : EndsLine (c :: rest))
    (rest' : List Char) : EndsLine (c :: rest') := by
  intro d tail same
  exact (List.cons.inj same).1 ▸ ends c rest rfl

/-- A text without its line comments. -/
abbrev withoutLineComments (text : List Char) : List Char :=
  replaceAll lineComment [] text

theorem not_mem_takeWhile (text : List Char) : '\n' ∉ text.takeWhile (· != '\n') := by
  intro member
  have other := List.mem_takeWhile_imp member
  simp at other

theorem endsLine_dropWhile (text : List Char) : EndsLine (text.dropWhile (· != '\n')) := by
  intro c rest same
  have head := List.head?_dropWhile_not (· != '\n') text
  rw [same] at head
  simpa using head

/-- Two slashes take the rest of their line. -/
theorem lineComment_slashes {line after : List Char} (free : '\n' ∉ line) (ends : EndsLine after) :
    lineComment ('/' :: '/' :: line ++ after) = some ((), after) := by
  have passes : ∀ c ∈ line, (c != '\n') = true := fun c member => by
    rw [bne_iff_ne]
    rintro rfl
    exact free member
  have stops : after.dropWhile (· != '\n') = after := by
    cases after with
    | nil => rfl
    | cons c rest => simp [ends c rest rfl]
  have ran : run (· != '\n') (line ++ after) =
      some ((line ++ after).takeWhile (· != '\n'), after) := by
    rw [run, List.dropWhile_append_of_pos passes, stops]
  exact bind_eq_some.mpr ⟨(), line ++ after, literal_eq_some.mpr rfl,
    bind_eq_some.mpr ⟨_, after, ran, rfl⟩⟩

/-- A line comment is two slashes and the rest of the line. -/
theorem lineComment_append_eq_some {taken after : List Char} :
    lineComment (taken ++ after) = some ((), after) ↔
      ∃ line, taken = '/' :: '/' :: line ∧ '\n' ∉ line ∧ EndsLine after := by
  constructor
  · intro read
    obtain ⟨_, rest, slashes, further⟩ := bind_eq_some.mp read
    obtain ⟨line, _, ran, same⟩ := bind_eq_some.mp further
    have whole : taken ++ after = '/' :: '/' :: rest := literal_eq_some.mp slashes
    cases ran
    cases same
    refine ⟨_, List.append_cancel_right (whole.trans ?_), not_mem_takeWhile rest,
      endsLine_dropWhile rest⟩
    rw [List.cons_append, List.cons_append, List.takeWhile_append_dropWhile]
  · rintro ⟨line, rfl, free, ends⟩
    exact lineComment_slashes free ends

theorem lineComment_eq_none {text : List Char} :
    lineComment text = none ↔ ¬ ['/', '/'] <+: text := by
  constructor
  · rintro unread ⟨rest, rfl⟩
    have read := lineComment_slashes (not_mem_takeWhile rest) (endsLine_dropWhile rest)
    rw [List.cons_append, List.cons_append, List.takeWhile_append_dropWhile] at read
    exact absurd (unread.symm.trans read) (by simp)
  · intro plain
    cases read : lineComment text with
    | none => rfl
    | some result =>
      obtain ⟨⟨⟩, after⟩ := result
      obtain ⟨taken, rfl, -⟩ := takes_lineComment _ _ _ read
      rw [lineComment_append_eq_some] at read
      obtain ⟨line, rfl, -⟩ := read
      exact absurd ⟨line ++ after, rfl⟩ plain

theorem takesSome_lineComment : Takes lineComment (· ≠ []) := by
  intro text value after read
  obtain ⟨taken, rfl, -⟩ := takes_lineComment _ _ _ read
  rw [lineComment_append_eq_some] at read
  obtain ⟨line, rfl, -⟩ := read
  exact ⟨_, rfl, List.cons_ne_nil _ _⟩

/-- A character that is left at the head, and is no line feed, has stood there. -/
theorem eq_cons_of_withoutLineComments {text back : List Char} {c : Char} (other : c ≠ '\n')
    (left : withoutLineComments text = c :: back) :
    ∃ rest, text = c :: rest ∧ lineComment text = none ∧ withoutLineComments rest = back := by
  cases text with
  | nil => cases left
  | cons d rest =>
    cases read : lineComment (d :: rest) with
    | none =>
      rw [withoutLineComments, replaceAll_passed read] at left
      obtain ⟨rfl, same⟩ := List.cons.inj left
      exact ⟨rest, rfl, rfl, same⟩
    | some result =>
      obtain ⟨⟨⟩, after⟩ := result
      rw [withoutLineComments, replaceAll_matched takesSome_lineComment read] at left
      obtain ⟨taken, same, -⟩ := takes_lineComment _ _ _ read
      rw [same, lineComment_append_eq_some] at read
      obtain ⟨-, -, -, ends⟩ := read
      -- What follows the comment begins with a line feed, which is left.
      cases after with
      | nil => cases left
      | cons e after =>
        obtain rfl := ends e after rfl
        have kept : lineComment ('\n' :: after) = none := by
          rw [lineComment_eq_none]
          simp
        rw [List.nil_append, replaceAll_passed kept] at left
        exact absurd (List.cons.inj left).1.symm other

/-- **No line comment is left.** -/
theorem not_doubleSlash_withoutLineComments (text : List Char) :
    ¬ ['/', '/'] <:+: withoutLineComments text := by
  refine replaceAll_induction takesSome_lineComment []
    (motive := fun _ left => ¬ ['/', '/'] <:+: left) (by simp) (fun _ _ _ _ ih => ih) ?_ text
  intro c rest unread ih inside
  rw [lineComment_eq_none] at unread
  rcases List.infix_cons_iff.mp inside with front | later
  · obtain ⟨rfl, back, slash⟩ := List.cons_prefix_cons.mp front
    obtain ⟨rest, rfl, -⟩ := eq_cons_of_withoutLineComments (by decide) slash.symm
    exact unread ⟨rest, rfl⟩
  · exact ih later

/-- **Line comments bring no two characters together:** two neighbours in what is left, of which the
second one is no line feed, were neighbours before, and what is left of the text before and after
them is what stands before and after them. -/
theorem split_withoutLineComments {u v : Char} (other : v ≠ '\n') {text front back : List Char}
    (left : withoutLineComments text = front ++ u :: v :: back) :
    ∃ before after, text = before ++ u :: v :: after ∧
      withoutLineComments (before ++ [u]) = front ++ [u] ∧
      withoutLineComments (v :: after) = v :: back := by
  refine replaceAll_induction takesSome_lineComment []
    (motive := fun text left => ∀ front, left = front ++ u :: v :: back →
      ∃ before after, text = before ++ u :: v :: after ∧
        withoutLineComments (before ++ [u]) = front ++ [u] ∧
        withoutLineComments (v :: after) = v :: back) ?_ ?_ ?_ text front left
  · intro front left
    simp at left
  · intro taken after _ read ih front left
    obtain ⟨before, after', rfl, kept, rest⟩ := ih front left
    refine ⟨taken ++ before, after', (List.append_assoc _ _ _).symm, ?_, rest⟩
    -- The comment ends where it did: what follows it begins with the same line feed.
    rw [lineComment_append_eq_some] at read
    obtain ⟨line, rfl, free, ends⟩ := read
    have ends' : EndsLine (before ++ [u]) := by
      cases before with
      | nil => exact ends.of_head []
      | cons d before => exact ends.of_head (before ++ [u])
    have read' := lineComment_slashes free ends'
    rw [List.append_assoc, withoutLineComments, replaceAll_matched takesSome_lineComment read']
    exact kept
  · intro c rest unread ih front left
    cases front with
    | nil =>
      obtain ⟨rfl, later⟩ := List.cons.inj left
      obtain ⟨after, rfl, unread', kept⟩ := eq_cons_of_withoutLineComments other later
      refine ⟨[], after, rfl, ?_, ?_⟩
      · rw [List.nil_append, withoutLineComments, replaceAll_passed]
        · rfl
        · rw [lineComment_eq_none]
          simp
      · rw [withoutLineComments, replaceAll_passed unread']
        exact congrArg (v :: ·) kept
    | cons d front =>
      obtain ⟨rfl, later⟩ := List.cons.inj left
      obtain ⟨before, after, rfl, kept, back⟩ := ih front later
      refine ⟨c :: before, after, rfl, ?_, back⟩
      have unread' : lineComment (c :: (before ++ [u])) = none := by
        rw [lineComment_eq_none] at unread ⊢
        exact fun slashes => unread (slashes.trans ⟨v :: after, by simp⟩)
      rw [List.cons_append, withoutLineComments, replaceAll_passed unread']
      exact congrArg (c :: ·) kept

/-- A text of which nothing is left is empty or a comment. -/
theorem eq_nil_of_withoutLineComments {text : List Char} (left : withoutLineComments text = [])
    (plain : ¬ ['/'] <+: text) : text = [] := by
  cases text with
  | nil => rfl
  | cons c rest =>
    have unread : lineComment (c :: rest) = none := by
      rw [lineComment_eq_none]
      exact fun slashes => plain ((List.prefix_append ['/'] ['/']).trans slashes)
    rw [withoutLineComments, replaceAll_passed unread] at left
    cases left

/-- A slash that is left at the end of a text, and an asterisk that follows, come to stand side by
side: the line of the slash has no comment. -/
theorem withoutLineComments_append {text more : List Char}
    (slash : ['/'] <:+ withoutLineComments text) (asterisk : ['*'] <+: more) :
    withoutLineComments (text ++ more) = withoutLineComments text ++ withoutLineComments more := by
  obtain ⟨more, rfl⟩ := asterisk
  refine replaceAll_induction takesSome_lineComment []
    (motive := fun text left => ['/'] <:+ left → withoutLineComments (text ++ '*' :: more) =
      left ++ withoutLineComments ('*' :: more)) ?_ ?_ ?_ text slash
  · intro slash
    simp at slash
  · intro taken after _ read ih slash
    rw [lineComment_append_eq_some] at read
    obtain ⟨line, rfl, free, ends⟩ := read
    have ends' : EndsLine (after ++ '*' :: more) := by
      cases after with
      | nil => simp [replaceAll, replaceFrom] at slash
      | cons d after => exact ends.of_head (after ++ '*' :: more)
    have read' := lineComment_slashes free ends'
    rw [List.append_assoc, withoutLineComments, replaceAll_matched takesSome_lineComment read']
    exact ih slash
  · intro c rest unread ih slash
    rw [lineComment_eq_none] at unread
    have unread' : lineComment (c :: (rest ++ '*' :: more)) = none := by
      rw [lineComment_eq_none]
      cases rest with
      | nil => simp
      | cons d rest => simpa using unread
    rw [List.cons_append, withoutLineComments, replaceAll_passed unread', List.cons_append]
    refine congrArg (c :: ·) ?_
    rcases List.suffix_cons_iff.mp slash with same | later
    · obtain ⟨rfl, left⟩ := List.cons.inj same
      -- The slash is the last character: another one behind it would begin a comment.
      obtain rfl := eq_nil_of_withoutLineComments left.symm fun front =>
        unread (List.cons_prefix_cons.mpr ⟨rfl, front⟩)
      rfl
    · exact ih later

/-! ### Block comments -/

/-- A text holds a block comment: `/*`, and `*/` later on. -/
def HoldsBlockComment (text : List Char) : Prop :=
  ∃ front inner back, text = front ++ '/' :: '*' :: inner ++ '*' :: '/' :: back

/-- A text without its block comments. -/
abbrev withoutBlockComments (text : List Char) : List Char :=
  replaceAll blockComment [] text

theorem toBlockEnd_eq_none {text : List Char} :
    toBlockEnd text = none ↔ ¬ ['*', '/'] <:+: text := by
  fun_induction toBlockEnd text with
  | case1 => simp
  | case2 rest =>
    refine iff_of_false (by simp) (not_not_intro ?_)
    exact (List.prefix_append ['*', '/'] rest).isInfix
  | case3 c rest noEnd ih =>
    rw [ih, not_iff_not, List.infix_cons_iff, iff_or_self]
    rintro ⟨after, same⟩
    obtain ⟨rfl, slash⟩ := List.cons.inj same
    exact (noEnd after rfl slash.symm).elim

/-- A block comment goes up to its first `*/`. -/
theorem toBlockEnd_eq_some {text after : List Char} :
    toBlockEnd text = some ((), after) ↔
      ∃ inner, text = inner ++ '*' :: '/' :: after ∧ ¬ ['*', '/'] <:+: inner ++ ['*'] := by
  constructor
  · intro read
    fun_induction toBlockEnd text with
    | case1 => cases read
    | case2 rest =>
      cases read
      exact ⟨[], rfl, by decide⟩
    | case3 c rest noEnd ih =>
      obtain ⟨inner, rfl, first⟩ := ih read
      refine ⟨c :: inner, rfl, fun inside => ?_⟩
      rcases List.infix_cons_iff.mp inside with front | later
      · obtain ⟨rfl, slash⟩ := List.cons_prefix_cons.mp front
        cases inner with
        | nil => simp at slash
        | cons d inner =>
          obtain ⟨rfl, -⟩ := List.cons_prefix_cons.mp slash
          exact noEnd _ rfl rfl
      · exact first later
  · rintro ⟨inner, rfl, first⟩
    induction inner with
    | nil => rfl
    | cons c inner ih =>
      rw [List.cons_append, toBlockEnd.eq_3]
      · exact ih fun later => first (List.infix_cons later)
      · rintro rest rfl same
        cases inner with
        | nil => simp at same
        | cons d inner =>
          obtain ⟨rfl, -⟩ := List.cons.inj same
          exact first ⟨[], inner ++ ['*'], rfl⟩

theorem isFirm_toBlockEnd : IsFirm toBlockEnd := by
  intro taken after more value read
  rw [toBlockEnd_eq_some] at read ⊢
  obtain ⟨inner, same, first⟩ := read
  have whole : taken = inner ++ ['*', '/'] :=
    List.append_cancel_right (same.trans (by simp : _ = inner ++ ['*', '/'] ++ after))
  exact ⟨inner, by simp [whole], first⟩

theorem isFirm_blockComment : IsFirm blockComment :=
  .bind (takes_any_literal "/*") (fun _ => takes_toBlockEnd) (isFirm_literal "/*")
    fun _ => isFirm_toBlockEnd

theorem blockComment_eq_some {text after : List Char} :
    blockComment text = some ((), after) ↔
      ∃ rest, text = '/' :: '*' :: rest ∧ toBlockEnd rest = some ((), after) := by
  unfold blockComment
  rw [bind_eq_some]
  constructor
  · rintro ⟨_, rest, read, ends⟩
    exact ⟨rest, literal_eq_some.mp read, ends⟩
  · rintro ⟨rest, same, ends⟩
    exact ⟨(), rest, literal_eq_some.mpr same, ends⟩

theorem takesSome_blockComment : Takes blockComment (· ≠ []) := by
  intro text value after read
  rw [blockComment_eq_some] at read
  obtain ⟨rest, rfl, ends⟩ := read
  rw [toBlockEnd_eq_some] at ends
  obtain ⟨inner, rfl, -⟩ := ends
  exact ⟨'/' :: '*' :: inner ++ ['*', '/'], by simp, List.cons_ne_nil _ _⟩

/-- A text holds a block comment just if one begins somewhere in it. -/
theorem holdsBlockComment_iff {text : List Char} :
    HoldsBlockComment text ↔
      ∃ back after, back <:+ text ∧ blockComment back = some ((), after) := by
  constructor
  · rintro ⟨front, inner, back, rfl⟩
    cases ends : toBlockEnd (inner ++ '*' :: '/' :: back) with
    | none =>
      rw [toBlockEnd_eq_none] at ends
      exact absurd ⟨inner, back, by simp⟩ ends
    | some result =>
      obtain ⟨⟨⟩, after⟩ := result
      refine ⟨'/' :: '*' :: inner ++ '*' :: '/' :: back, after, ⟨front, by simp⟩, ?_⟩
      rw [blockComment_eq_some]
      exact ⟨_, rfl, ends⟩
  · rintro ⟨back, after, ⟨front, rfl⟩, read⟩
    rw [blockComment_eq_some] at read
    obtain ⟨rest, rfl, ends⟩ := read
    rw [toBlockEnd_eq_some] at ends
    obtain ⟨inner, rfl, -⟩ := ends
    exact ⟨front, inner, after, by simp⟩

theorem withoutBlockComments_eq_self {text : List Char} (free : ¬ HoldsBlockComment text) :
    withoutBlockComments text = text := by
  rw [holdsBlockComment_iff] at free
  exact replaceAll_eq_self takesSome_blockComment fun back after suffix read =>
    (free ⟨back, after, suffix, read⟩).elim

/-- What begins like a block comment and is none has no `*/` in it, and so no block comment. -/
theorem unclosed_of_unread {rest : List Char} (unread : blockComment ('/' :: '*' :: rest) = none) :
    ¬ ['*', '/'] <:+: rest ∧ withoutBlockComments rest = rest := by
  have unclosed : ¬ ['*', '/'] <:+: rest := by
    rw [← toBlockEnd_eq_none]
    cases ends : toBlockEnd rest with
    | none => rfl
    | some result =>
      obtain ⟨⟨⟩, after⟩ := result
      have read : blockComment ('/' :: '*' :: rest) = some ((), after) := by
        rw [blockComment_eq_some]
        exact ⟨rest, rfl, ends⟩
      rw [read] at unread
      cases unread
  refine ⟨unclosed, withoutBlockComments_eq_self ?_⟩
  rintro ⟨front, inner, back, rfl⟩
  exact unclosed ⟨front ++ '/' :: '*' :: inner, back, by simp⟩

/-- **A slash and an asterisk that come to stand side by side** before a `*/` stood on two sides of a
block comment: side by side they would have begun one themselves. -/
theorem exists_joining_comment {text front back : List Char}
    (left : withoutBlockComments text = front ++ '/' :: '*' :: back)
    (closed : ['*', '/'] <:+: back) :
    ∃ hit ∈ allMatches (fun _ => blockComment) text,
      withoutBlockComments hit.before.reverse = front ++ ['/'] ∧
      withoutBlockComments hit.after = '*' :: back := by
  refine replaceAll_induction takesSome_blockComment []
    (motive := fun text left => ∀ front, left = front ++ '/' :: '*' :: back →
      ∃ hit ∈ allMatches (fun _ => blockComment) text,
        withoutBlockComments hit.before.reverse = front ++ ['/'] ∧
        withoutBlockComments hit.after = '*' :: back) ?_ ?_ ?_ text front left
  · intro front left
    simp at left
  · intro taken after long read ih front left
    obtain ⟨hit, member, before, rest⟩ := ih front left
    refine ⟨hit.behind taken, ?_, ?_, rest⟩
    · rw [allMatches_matched long read]
      exact List.mem_cons_of_mem _ (List.mem_map_of_mem member)
    · have read' := isFirm_blockComment _ _ hit.before.reverse _ read
      simp only [Match.behind, List.reverse_append, List.reverse_reverse]
      rw [withoutBlockComments, replaceAll_matched takesSome_blockComment read']
      exact before
  · intro c rest unread ih front left
    rw [allMatches_passed unread]
    cases front with
    | nil =>
      obtain ⟨rfl, later⟩ := List.cons.inj left
      cases read : blockComment rest with
      | some result =>
        -- A block comment stands between the two.
        obtain ⟨⟨⟩, after⟩ := result
        obtain ⟨taken, rfl, long⟩ := takesSome_blockComment _ _ _ read
        refine ⟨Match.behind ['/'] ⟨[], (), after⟩, List.mem_map_of_mem ?_, rfl, ?_⟩
        · rw [allMatches_matched long read]
          exact List.mem_cons_self
        · rw [replaceAll_matched takesSome_blockComment read] at later
          exact later
      | none =>
        cases rest with
        | nil => cases later
        | cons d rest =>
          rw [replaceAll_passed read] at later
          obtain ⟨rfl, behind⟩ := List.cons.inj later
          obtain ⟨unclosed, same⟩ := unclosed_of_unread unread
          have isBack : rest = back := same.symm.trans behind
          exact absurd (isBack ▸ closed) unclosed
    | cons d front =>
      obtain ⟨rfl, later⟩ := List.cons.inj left
      obtain ⟨hit, member, before, after⟩ := ih front later
      refine ⟨hit.behind [c], List.mem_map_of_mem member, ?_, after⟩
      have unread' := isFirm_blockComment.eq_none_before takes_blockComment unread member
      simp only [Match.behind, List.reverse_append, List.reverse_singleton, List.singleton_append]
      rw [withoutBlockComments, replaceAll_passed unread']
      exact congrArg (c :: ·) before

/-! ### Both together -/

/-- A block comment of a text joins another one: without comments, what stands before it ends with a
slash, and what stands after it begins with an asterisk and has `*/` later on. -/
def JoinsComment (text : List Char) : Prop :=
  ∃ hit ∈ allMatches (fun _ => blockComment) text,
    ['/'] <:+ withoutComments hit.before.reverse ∧
    ∃ back, withoutComments hit.after = '*' :: back ∧ ['*', '/'] <:+: back

theorem withoutComments_eq (text : List Char) :
    withoutComments text = withoutLineComments (withoutBlockComments text) := rfl

theorem not_doubleSlash_withoutComments (text : List Char) :
    ¬ ['/', '/'] <:+: withoutComments text :=
  not_doubleSlash_withoutLineComments _

/-- **A block comment is left just if one has been joined.** -/
theorem holdsBlockComment_withoutComments_iff {text : List Char} :
    HoldsBlockComment (withoutComments text) ↔ JoinsComment text := by
  constructor
  · rintro ⟨front, inner, back, left⟩
    have opening : withoutLineComments (withoutBlockComments text) =
        front ++ '/' :: '*' :: (inner ++ '*' :: '/' :: back) := by
      rw [← List.cons_append, ← List.cons_append, ← List.append_assoc]
      exact left
    obtain ⟨before, after, whole, keptBefore, keptAfter⟩ :=
      split_withoutLineComments (by decide) opening
    obtain ⟨_, same, -, keptBehind⟩ := eq_cons_of_withoutLineComments (by decide) keptAfter
    obtain ⟨-, rfl⟩ := List.cons.inj same
    obtain ⟨before', after', same, -⟩ := split_withoutLineComments (by decide) keptBehind
    have closed : ['*', '/'] <:+: after := ⟨before', after', by simp [same]⟩
    obtain ⟨hit, member, frontOf, backOf⟩ := exists_joining_comment whole closed
    refine ⟨hit, member, ⟨front, ?_⟩, inner ++ '*' :: '/' :: back, ?_, inner, back, by simp⟩
    · rw [withoutComments_eq, frontOf, keptBefore]
    · rw [withoutComments_eq, backOf, keptAfter]
  · rintro ⟨hit, member, slash, back, asterisk, inner, rest, closed⟩
    have parts : withoutBlockComments text = withoutBlockComments hit.before.reverse ++
        withoutBlockComments hit.after := by
      have split : replaceAll blockComment [] text =
          replaceAll blockComment [] hit.before.reverse ++ [] ++
            replaceAll blockComment [] hit.after :=
        replaceAll_split takesSome_blockComment isFirm_blockComment member
      rwa [List.append_nil] at split
    obtain ⟨after, begins, -⟩ := eq_cons_of_withoutLineComments (by decide) asterisk
    have joined : withoutComments text = withoutComments hit.before.reverse ++
        withoutComments hit.after := by
      rw [withoutComments_eq, parts]
      exact withoutLineComments_append slash ⟨after, begins.symm⟩
    obtain ⟨front, slash⟩ := slash
    refine ⟨front, inner, rest, ?_⟩
    rw [joined, asterisk, ← slash, ← closed]
    simp

/-- **Leaving comments out again changes nothing just if none is left.** -/
theorem withoutComments_twice_iff {text : List Char} :
    withoutComments (withoutComments text) = withoutComments text ↔
      ¬ HoldsBlockComment (withoutComments text) := by
  constructor
  · intro same holds
    rw [holdsBlockComment_iff] at holds
    obtain ⟨back, after, suffix, read⟩ := holds
    -- Leaving a block comment out makes the text shorter, and line comments make it no longer.
    have shorter :
        (withoutComments (withoutComments text)).length < (withoutComments text).length :=
      (length_replaceAll_nil_le takesSome_lineComment _).trans_lt
        (length_replaceAll_nil_lt takesSome_blockComment suffix read)
    rw [same] at shorter
    exact absurd shorter (Nat.lt_irrefl _)
  · intro free
    rw [withoutComments_eq (withoutComments text), withoutBlockComments_eq_self free]
    refine replaceAll_eq_self takesSome_lineComment fun back after suffix read => ?_
    have slashes : ['/', '/'] <+: back := by
      by_contra plain
      rw [← lineComment_eq_none, read] at plain
      cases plain
    exact absurd (slashes.isInfix.trans suffix.isInfix) (not_doubleSlash_withoutComments text)

namespace Brief

/-- **Which comments the step leaves.** In every file out of which nothing has been cut there is no
line comment left, and a block comment is left just if two parts of one have been brought together;
nothing else is changed; and taking the step again changes nothing just if that has happened in no
file. -/
theorem stripComments_leaves_iff (brief : Brief) :
    let stripped := CompressionStep.stripComments.apply brief
    stripped = { brief with files := stripped.files } ∧
    List.Forall₂ (SelectedFile.Rewritten fun text left => ¬ ['/', '/'] <:+: left ∧
      (HoldsBlockComment left ↔ JoinsComment text)) brief.files stripped.files ∧
    (CompressionStep.stripComments.apply stripped = stripped ↔
      ∀ file ∈ brief.files, file.summarized = false → ¬ JoinsComment file.content.toList) := by
  intro stripped
  have files : List.Forall₂ (SelectedFile.Rewritten fun text left => ¬ ['/', '/'] <:+: left ∧
      (HoldsBlockComment left ↔ JoinsComment text)) brief.files stripped.files :=
    rewritten_changeTexts (fun text =>
      ⟨not_doubleSlash_withoutComments text, holdsBlockComment_withoutComments_iff⟩) brief.files
  refine ⟨rfl, files, ?_⟩
  have twice : CompressionStep.stripComments.apply stripped = stripped ↔
      stripped.files.map (SelectedFile.changeText withoutComments) = stripped.files :=
    ⟨congrArg Brief.files, congrArg fun files => { brief with files }⟩
  rw [twice]
  refine (changeTexts_twice_iff brief.files).trans (forall₂_congr fun file _ => ?_)
  rw [withoutComments_twice_iff, holdsBlockComment_withoutComments_iff]

/-- **A block comment that is left**: its two first characters stand on two sides of another one. -/
theorem not_stripped_joinedComment :
    let brief : Brief := { files := [{ path := "a.js", content := "//* x */* y */" }] }
    let stripped := CompressionStep.stripComments.apply brief
    (∃ file ∈ stripped.files, file.summarized = false ∧ HoldsBlockComment file.content.toList) ∧
      CompressionStep.stripComments.apply stripped ≠ stripped := by
  intro brief stripped
  have left : stripped.files = [{ path := "a.js", content := "/* y */" }] := by
    decide +kernel
  refine ⟨⟨{ path := "a.js", content := "/* y */" }, by rw [left]; exact List.mem_cons_self, rfl,
    [], " y ".toList, [], rfl⟩, fun same => ?_⟩
  have again : (CompressionStep.stripComments.apply stripped).files ≠ stripped.files := by
    decide +kernel
  exact again (congrArg Brief.files same)

end Brief

end CodeBrief
