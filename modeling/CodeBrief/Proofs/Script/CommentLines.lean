/-
**Whether a comment stays inside.**

The record of a marked comment tells the line of its slashes and the text behind its mark, and that
of a documentation block the block.

* `Comment.StaysOnLine` — the text of a marked comment is part of the line that its record tells.
* `Place.staysOnLine_iff` — it is, unless the blanks around the mark go beyond the line.
* `Place.exists_line_of_text` — it is the end of the line that they reach.
* `Comment.ClosesFirst` — the text of a block goes up to the first `*/` behind its opening.
* `closesFirst_iff` — behind `/**` it does, and behind `/*` unless the two share an asterisk.
* `comments_stayInside_iff` — both for the comments of any text.

A second mark on the same line is kept apart from that of the comment by counting slashes: blanks
and marks have none, and a comment whose text had some would have been read before.
-/

import CodeBrief.Proofs.Script.CommentPlaces

namespace CodeBrief.Script

open Pattern

/-! ### The line of a marked comment -/

/-- The text of a comment is part of its line, behind two slashes and the mark. -/
def Comment.StaysOnLine (text : List Char) (comment : Comment) : Prop :=
  ∃ line front gap back, (Text.pieces (· == '\n') text)[comment.line - 1]? = some line ∧
    line = front ++ ('/' :: '/' :: gap ++ comment.kind.name.toList ++ back) ∧
    (∀ c ∈ gap, Text.isBlank c = true) ∧ comment.text.toList <:+: back

/-- A text without the blanks at its ends ends with no blank. -/
theorem eq_nil_of_strip_eq_append {text front back : List Char}
    (same : Text.strip text = front ++ back) (blank : ∀ c ∈ back, Text.isBlank c = true) :
    back = [] := by
  have turned := congrArg List.reverse same
  rw [Text.strip, Text.trimRight, List.reverse_reverse, List.reverse_append] at turned
  rw [← List.reverse_eq_nil_iff]
  cases ends : back.reverse with
  | nil => rfl
  | cons c others =>
    have first := List.head?_dropWhile_not Text.isBlank (text.dropWhile Text.isBlank).reverse
    rw [turned, ends] at first
    have member : c ∈ back := List.mem_reverse.mp (ends ▸ List.mem_cons_self)
    exact absurd (blank c member) (by simpa using first)

theorem strip_isInfix (text : List Char) : Text.strip text <:+: text := by
  have front : Text.strip text <+: text.dropWhile Text.isBlank := by
    rw [Text.strip, Text.trimRight, ← List.reverse_suffix, List.reverse_reverse]
    exact List.dropWhile_suffix _
  exact front.isInfix.trans (List.dropWhile_suffix _).isInfix

theorem endsLine_newLine (rest : List Char) : EndsLine ('\n' :: rest) := by
  intro c tail same
  exact (List.cons.inj same).1.symm

theorem takeWhile_of_endsLine {line rest : List Char} (free : '\n' ∉ line) (ends : EndsLine rest) :
    (line ++ rest).takeWhile (· != '\n') = line := by
  refine takeWhile_append_of_endsRun (fun c member => ?_) fun c first => ?_
  · rw [bne_iff_ne]
    rintro rfl
    exact free member
  · cases rest with
    | nil => cases first
    | cons d rest => simpa using (Option.some.inj first) ▸ ends d rest rfl

theorem slash_not_mem_of_blank {gap : List Char} (blank : ∀ c ∈ gap, Text.isBlank c = true) :
    '/' ∉ gap :=
  fun member => absurd (blank '/' member) (by decide)

theorem IsMark.count_slash {mark gap : List Char} (isMark : IsMark mark)
    (blank : ∀ c ∈ gap, Text.isBlank c = true) (back : List Char) :
    ('/' :: '/' :: gap ++ mark ++ back).count '/' = 2 + back.count '/' := by
  rw [List.count_append, List.count_append, List.count_cons_self, List.count_cons_self,
    List.count_eq_zero.mpr (slash_not_mem_of_blank blank), List.count_eq_zero.mpr isMark.noSlash]

namespace Place

variable {text : List Char} {comment : Comment} (place : Place text comment)

/-- What follows the mark. -/
def tail : List Char :=
  place.colon ++ place.lead ++ place.rest ++ place.after

theorem break_not_mem_colon : '\n' ∉ place.colon := by
  rcases place.colon_optional with same | same <;> simp [same]

/-- What follows the two slashes on their line. -/
def onLine : List Char :=
  (place.gap ++ comment.kind.name.toList ++ place.tail).takeWhile (· != '\n')

theorem text_eq_append : text =
    place.before ++ ('/' :: '/' :: place.gap ++ comment.kind.name.toList ++ place.tail) :=
  place.whole

theorem onLine_isPrefix :
    place.onLine <+: place.gap ++ comment.kind.name.toList ++ place.tail :=
  List.takeWhile_prefix _

/-- The line of the comment that its record tells. -/
theorem exists_line : ∃ above start, place.before = above ++ start ∧ '\n' ∉ start ∧
    (Text.pieces (· == '\n') text)[comment.line - 1]? =
      some (start ++ '/' :: '/' :: place.onLine) := by
  obtain ⟨above, start, isBefore, free, piece⟩ := Text.exists_getElem?_pieces '\n' place.before
    ('/' :: '/' :: place.gap ++ comment.kind.name.toList ++ place.tail)
  refine ⟨above, start, isBefore, free, ?_⟩
  rw [← place.text_eq_append] at piece
  rw [place.line_eq, Nat.add_sub_cancel, piece]
  rfl

theorem onLine_of_gap {above below : List Char} (isGap : place.gap = above ++ '\n' :: below)
    (free : '\n' ∉ above) : place.onLine = above := by
  rw [onLine, isGap, List.append_assoc, List.append_assoc]
  exact takeWhile_of_endsLine free (endsLine_newLine _)

theorem staysOnLine_of_infix {back : List Char}
    (same : place.onLine = place.gap ++ comment.kind.name.toList ++ back)
    (inside : comment.text.toList <:+: back) : comment.StaysOnLine text := by
  obtain ⟨above, start, -, -, isLine⟩ := place.exists_line
  refine ⟨_, start, place.gap, back, isLine, ?_, place.gap_blank, inside⟩
  rw [same]
  rfl

/-- Of a colon and blanks the text of a comment takes the colon or nothing. -/
theorem text_of_infix {blanks : List Char} (blank : ∀ c ∈ blanks, Text.isBlank c = true)
    (inside : comment.text.toList <:+: place.colon ++ blanks) :
    comment.text = "" ∨ place.colon = [':'] ∧ comment.text = ":" := by
  have ofBlanks : comment.text.toList <:+: blanks → comment.text = "" := fun among => by
    have whole : Text.strip place.rest = [] ++ comment.text.toList := place.text_eq.symm
    have none := eq_nil_of_strip_eq_append whole fun c member => blank c (among.subset member)
    exact String.toList_inj.mp none
  rcases place.colon_optional with same | same
  · rw [same, List.nil_append] at inside
    exact Or.inl (ofBlanks inside)
  · rw [same, List.singleton_append, List.infix_cons_iff] at inside
    rcases inside with first | later
    · cases isText : comment.text.toList with
      | nil => exact Or.inl (String.toList_inj.mp isText)
      | cons c others =>
        rw [isText, List.cons_prefix_cons] at first
        obtain ⟨rfl, among⟩ := first
        have whole : Text.strip place.rest = [':'] ++ others := place.text_eq.symm.trans isText
        obtain rfl := eq_nil_of_strip_eq_append whole fun d member =>
          blank d (among.subset member)
        exact Or.inr ⟨same, String.toList_inj.mp isText⟩
    · exact Or.inl (ofBlanks later)

section Mark

variable (isMark : IsMark comment.kind.name.toList)
include isMark

theorem onLine_of_lead (gapFree : '\n' ∉ place.gap) {above below : List Char}
    (isLead : place.lead = above ++ '\n' :: below) (free : '\n' ∉ above) :
    place.onLine = place.gap ++ comment.kind.name.toList ++ (place.colon ++ above) := by
  have parts : place.gap ++ comment.kind.name.toList ++ place.tail =
      (place.gap ++ comment.kind.name.toList ++ (place.colon ++ above)) ++
        '\n' :: (below ++ place.rest ++ place.after) := by simp [tail, isLead]
  rw [onLine, parts]
  refine takeWhile_of_endsLine ?_ (endsLine_newLine _)
  simp [gapFree, isMark.noBreak, place.break_not_mem_colon, free]

theorem onLine_of_free (gapFree : '\n' ∉ place.gap) (leadFree : '\n' ∉ place.lead) :
    place.onLine =
      place.gap ++ comment.kind.name.toList ++ (place.colon ++ place.lead ++ place.rest) := by
  have parts : place.gap ++ comment.kind.name.toList ++ place.tail =
      (place.gap ++ comment.kind.name.toList ++ (place.colon ++ place.lead ++ place.rest)) ++
        place.after := by simp [tail]
  rw [onLine, parts]
  refine takeWhile_of_endsLine ?_ place.after_endsLine
  simp [gapFree, isMark.noBreak, place.break_not_mem_colon, leadFree, place.rest_inLine]

/-- No slash is left on a line that the blanks around the mark go beyond. -/
theorem slash_not_mem_onLine (goesOn : '\n' ∈ place.gap ∨ '\n' ∈ place.lead) :
    '/' ∉ place.onLine := by
  have gapFree := slash_not_mem_of_blank place.gap_blank
  have leadFree := slash_not_mem_of_blank place.lead_blank
  by_cases broken : '\n' ∈ place.gap
  · obtain ⟨above, below, isGap, free⟩ := List.eq_append_cons_of_mem broken
    rw [place.onLine_of_gap isGap free]
    exact fun member => gapFree (isGap ▸ List.mem_append_left _ member)
  · obtain ⟨above, below, isLead, free⟩ :=
      List.eq_append_cons_of_mem (goesOn.resolve_left broken)
    rw [isLead, List.mem_append, not_or] at leadFree
    rw [place.onLine_of_lead isMark broken isLead free]
    have colonFree : '/' ∉ place.colon := by
      rcases place.colon_optional with same | same <;> simp [same]
    simp [gapFree, isMark.noSlash, colonFree, leadFree.1]

/-- **Two slashes and a mark on such a line are those of the comment.** -/
theorem front_eq (goesOn : '\n' ∈ place.gap ∨ '\n' ∈ place.lead) {above start : List Char}
    (isBefore : place.before = above ++ start) (free : '\n' ∉ start) {front gap back : List Char}
    (blank : ∀ c ∈ gap, Text.isBlank c = true)
    (same : start ++ '/' :: '/' :: place.onLine =
      front ++ ('/' :: '/' :: gap ++ comment.kind.name.toList ++ back)) : front = start := by
  have noSlash := List.count_eq_zero.mpr (place.slash_not_mem_onLine isMark goesOn)
  have slashes := isMark.count_slash blank back
  rcases List.append_eq_append_iff.mp same with ⟨between, rfl, later⟩ | ⟨between, rfl, earlier⟩
  · cases between with
    | nil => exact List.append_nil _
    | cons c between =>
      -- There are two slashes on the left, and three on the right.
      have counts := congrArg (List.count '/') later
      obtain rfl : '/' = c := (List.cons.inj later).1
      rw [List.count_append, slashes, List.count_cons_self, List.count_cons_self,
        List.count_cons_self, noSlash] at counts
      omega
  · cases between with
    | nil => exact (List.append_nil _).symm
    | cons c between =>
      -- The comment would have begun earlier, with the slashes of its own in its text.
      exfalso
      have counts := congrArg (List.count '/') earlier
      obtain rfl : '/' = c := (List.cons.inj earlier).1
      rw [slashes, List.count_append, List.count_cons_self, List.count_cons_self,
        List.count_cons_self, noSlash] at counts
      have inside : '/' ∈ back := List.count_pos_iff.mp (by omega)
      obtain ⟨further, whole⟩ := place.onLine_isPrefix
      have unread := place.first (above ++ front) ('/' :: between)
        (isBefore.trans (List.append_assoc _ _ _).symm) (List.cons_ne_nil _ _)
        fun member => free (List.mem_append_right _ member)
      have text :=
        calc '/' :: between ++
              ('/' :: '/' :: place.gap ++ comment.kind.name.toList ++ place.tail)
          _ = '/' :: between ++
              '/' :: '/' :: (place.gap ++ comment.kind.name.toList ++ place.tail) := by simp
          _ = '/' :: between ++ '/' :: '/' :: place.onLine ++ further := by rw [← whole]; simp
          _ = '/' :: '/' :: gap ++ comment.kind.name.toList ++ (back ++ further) := by
            rw [← earlier, List.append_assoc]
      exact marked_ne_none isMark blank (List.mem_append_left further inside) (by decide)
        (text ▸ unread)

/-- What a comment that goes beyond its line has on it: the mark, if the line reaches that far. -/
theorem exists_onLine_eq (goesOn : '\n' ∈ place.gap ∨ '\n' ∈ place.lead)
    (stays : comment.StaysOnLine text) : ∃ gap back,
      place.onLine = gap ++ comment.kind.name.toList ++ back ∧
      (∀ c ∈ gap, Text.isBlank c = true) ∧ comment.text.toList <:+: back := by
  obtain ⟨line, front, gap, back, isLine, parts, blank, inside⟩ := stays
  obtain ⟨above, start, isBefore, free, isLine'⟩ := place.exists_line
  have same := (Option.some.inj (isLine'.symm.trans isLine)).trans parts
  obtain rfl := place.front_eq isMark goesOn isBefore free blank same
  refine ⟨gap, back, ?_, blank, inside⟩
  have behind := List.append_cancel_left same
  exact (List.cons.inj (List.cons.inj behind).2).2

/-- No mark is left on a line that ends in front of it. -/
theorem break_not_mem_gap (stays : comment.StaysOnLine text) : '\n' ∉ place.gap := by
  intro broken
  obtain ⟨gap, back, same, -⟩ := place.exists_onLine_eq isMark (Or.inl broken) stays
  obtain ⟨above, below, isGap, free⟩ := List.eq_append_cons_of_mem broken
  rw [place.onLine_of_gap isGap free] at same
  obtain ⟨c, mark, isName⟩ := List.exists_cons_of_ne_nil isMark.nonempty
  have solid := isMark.first [] c (by rw [isName]; rfl)
  have member : c ∈ place.gap := by simp [isGap, same, isName]
  rw [place.gap_blank c member] at solid
  cases solid

/-- A line that ends behind its mark has nothing left but blanks and the colon. -/
theorem text_of_break (stays : comment.StaysOnLine text) (broken : '\n' ∈ place.lead) :
    comment.text = "" ∨ place.colon = [':'] ∧ comment.text = ":" := by
  obtain ⟨gap, back, same, blank, inside⟩ := place.exists_onLine_eq isMark (Or.inr broken) stays
  obtain ⟨above, below, isLead, free⟩ := List.eq_append_cons_of_mem broken
  rw [place.onLine_of_lead isMark (place.break_not_mem_gap isMark stays) isLead free,
    List.append_assoc, List.append_assoc] at same
  obtain rfl : place.gap = gap := by
    have runs := congrArg (List.takeWhile Text.isBlank) same
    rwa [takeWhile_append_of_endsRun place.gap_blank (isMark.first _),
      takeWhile_append_of_endsRun blank (isMark.first _)] at runs
  obtain rfl := List.append_cancel_left (List.append_cancel_left same)
  refine place.text_of_infix (fun c member => place.lead_blank c ?_) inside
  rw [isLead]
  exact List.mem_append_left _ member

/-- **Which comments stay on their line**: those with no line feed in the blanks around the mark,
and of those with one behind the mark the ones whose text is empty or the colon. -/
theorem staysOnLine_iff : comment.StaysOnLine text ↔ '\n' ∉ place.gap ∧
    ('\n' ∉ place.lead ∨ comment.text = "" ∨ place.colon = [':'] ∧ comment.text = ":") := by
  constructor
  · intro stays
    refine ⟨place.break_not_mem_gap isMark stays, or_iff_not_imp_left.mpr fun broken => ?_⟩
    exact place.text_of_break isMark stays (not_not.mp broken)
  · rintro ⟨gapFree, rest⟩
    by_cases broken : '\n' ∈ place.lead
    · obtain ⟨above, below, isLead, free⟩ := List.eq_append_cons_of_mem broken
      refine place.staysOnLine_of_infix (place.onLine_of_lead isMark gapFree isLead free) ?_
      rcases rest.resolve_left (not_not_intro broken) with empty | ⟨isColon, isText⟩
      · rw [empty]
        exact List.nil_infix
      · rw [isColon, isText]
        exact (List.prefix_append _ _).isInfix
    · refine place.staysOnLine_of_infix (place.onLine_of_free isMark gapFree broken) ?_
      rw [place.text_eq]
      exact (strip_isInfix place.rest).trans (List.suffix_append _ _).isInfix

/-- **Where the text is**: at the end of the line that the blanks reach. -/
theorem exists_line_of_text : ∃ line,
    (Text.pieces (· == '\n') text)[comment.line - 1 +
      (place.gap ++ place.lead).count '\n']? = some line ∧ place.rest <:+ line := by
  obtain ⟨-, start, -, -, piece⟩ := Text.exists_getElem?_pieces '\n'
    (place.before ++ ('/' :: '/' :: place.gap ++ comment.kind.name.toList ++
      (place.colon ++ place.lead))) (place.rest ++ place.after)
  have whole : place.before ++ ('/' :: '/' :: place.gap ++ comment.kind.name.toList ++
      (place.colon ++ place.lead)) ++ (place.rest ++ place.after) = text := by
    refine Eq.trans ?_ place.text_eq_append.symm
    simp [tail]
  have feeds : (place.before ++ ('/' :: '/' :: place.gap ++ comment.kind.name.toList ++
      (place.colon ++ place.lead))).count '\n' =
        comment.line - 1 + (place.gap ++ place.lead).count '\n' := by
    have noMark := List.count_eq_zero.mpr isMark.noBreak
    have noColon := List.count_eq_zero.mpr place.break_not_mem_colon
    simp only [place.line_eq, List.count_append, List.count_cons, noMark, noColon]
    simp
  rw [whole, feeds, takeWhile_of_endsLine place.rest_inLine place.after_endsLine] at piece
  exact ⟨_, piece, List.suffix_append _ _⟩

end Mark

end Place

/-! ### Documentation blocks -/

/-- The text of a comment goes from an opening to the first `*/` behind it. -/
def Comment.ClosesFirst (opening : String) (comment : Comment) : Prop :=
  ∃ body, comment.text.toList = opening.toList ++ body ++ ['*', '/'] ∧
    ¬ ['*', '/'] <:+: body ++ ['*']

/-- What goes through the end of a block is what the end is looked for in. -/
theorem throughBlockEnd_eq_some {text inner after : List Char}
    (read : throughBlockEnd text = some (inner, after)) :
    toBlockEnd text = some ((), after) ∧ text = inner ++ after := by
  fun_induction throughBlockEnd text generalizing inner with
  | case1 => cases read
  | case2 rest =>
    cases read
    exact ⟨rfl, rfl⟩
  | case3 c rest noEnd ih =>
    obtain ⟨⟨inner, after⟩, ends, same⟩ := Option.map_eq_some_iff.mp read
    cases same
    obtain ⟨found, rfl⟩ := ih ends
    exact ⟨(toBlockEnd.eq_3 c _ noEnd).trans found, rfl⟩

theorem documentationBlock_eq_some {text value after : List Char}
    (read : documentationBlock text = some (value, after)) : text = value ++ after ∧
      ∃ body, value = "/**".toList ++ body ++ ['*', '/'] ∧ ¬ ['*', '/'] <:+: body ++ ['*'] := by
  obtain ⟨_, rest, opens, further⟩ := bind_eq_some.mp read
  obtain ⟨inner, _, through, same⟩ := bind_eq_some.mp further
  cases same
  obtain rfl := literal_eq_some.mp opens
  obtain ⟨found, rfl⟩ := throughBlockEnd_eq_some through
  obtain ⟨body, whole, first⟩ := toBlockEnd_eq_some.mp found
  have isInner : inner = body ++ ['*', '/'] :=
    List.append_cancel_right (whole.trans (by simp : _ = body ++ ['*', '/'] ++ after))
  exact ⟨(List.append_assoc _ _ _).symm, body, by rw [isInner, List.append_assoc], first⟩

/-- **Where a documentation block ends**: at the first `*/` behind the three characters that open it,
and so at the first one behind two of them, unless the third one is part of such an end. -/
theorem closesFirst_iff {comment : Comment} (closes : comment.ClosesFirst "/**") :
    comment.ClosesFirst "/*" ↔ ¬ "/**/".toList <+: comment.text.toList := by
  obtain ⟨body, isText, first⟩ := closes
  have early : "/**/".toList <+: comment.text.toList ↔ ['*', '/'] <+: '*' :: (body ++ ['*']) := by
    rw [isText]
    cases body <;> simp
  have further : comment.ClosesFirst "/*" ↔ ¬ ['*', '/'] <:+: '*' :: (body ++ ['*']) := by
    constructor
    · rintro ⟨body', isText', first'⟩
      have same : '*' :: body ++ ['*', '/'] = body' ++ ['*', '/'] := by
        simpa using isText.symm.trans isText'
      rw [← List.append_cancel_right same] at first'
      exact first'
    · intro first'
      exact ⟨'*' :: body, by simp [isText], first'⟩
  rw [further, early, List.infix_cons_iff, not_or, and_iff_left first]

theorem exists_block {text : List Char} {comment : Comment} (member : comment ∈ comments text)
    (block : comment.kind = .documentation) : (∃ before after,
      text = before ++ comment.text.toList ++ after ∧ comment.line = before.count '\n' + 1) ∧
      comment.ClosesFirst "/**" := by
  have inside := mem_comments.mp member
  rw [block] at inside
  obtain ⟨hit, found, rfl⟩ := List.mem_map.mp inside
  obtain ⟨back, whole, read⟩ := split_of_mem_matchesFrom found
  rw [List.reverse_nil, List.nil_append] at whole
  obtain ⟨rfl, body, isValue, first⟩ := documentationBlock_eq_some read
  rw [if_pos rfl]
  refine ⟨⟨hit.before.reverse, hit.after, ?_, ?_⟩, body, ?_, first⟩
  · rw [String.toList_ofList, whole, List.append_assoc]
  · rw [List.count_reverse]
  · rw [String.toList_ofList, isValue]

/-! ### All comments of a text -/

/-- **Which comments stay inside.** The text of a marked comment is the end of the line that the
blanks around its mark reach; it is part of the line that its record tells just if no line feed is
among the blanks in front of the mark, and none among those behind it either, or the text is nothing
or the colon. A documentation block stands in the text as its record tells and ends at the first `*/`
behind `/**`; that is the first one behind `/*` just if the block does not begin with `/**/`. -/
theorem comments_stayInside_iff {text : List Char} {comment : Comment}
    (member : comment ∈ comments text) :
    (comment.kind ≠ .documentation → ∃ place : Place text comment,
      (∃ line, (Text.pieces (· == '\n') text)[comment.line - 1 +
        (place.gap ++ place.lead).count '\n']? = some line ∧ place.rest <:+ line) ∧
      (comment.StaysOnLine text ↔ '\n' ∉ place.gap ∧
        ('\n' ∉ place.lead ∨ comment.text = "" ∨ place.colon = [':'] ∧ comment.text = ":"))) ∧
    (comment.kind = .documentation →
      (∃ before after, text = before ++ comment.text.toList ++ after ∧
        comment.line = before.count '\n' + 1) ∧
      comment.ClosesFirst "/**" ∧
      (comment.ClosesFirst "/*" ↔ ¬ "/**/".toList <+: comment.text.toList)) := by
  constructor
  · intro marks
    obtain ⟨place⟩ := exists_place member marks
    have isMark := isMark_name marks
    exact ⟨place, place.exists_line_of_text isMark, place.staysOnLine_iff isMark⟩
  · intro block
    obtain ⟨stands, closes⟩ := exists_block member block
    exact ⟨stands, closes, closesFirst_iff closes⟩

/-- A mark at the end of its line, with the text of the comment two lines further on. -/
theorem comments_stayInside_secondMark :
    let text := "x // TODO:\n\n  a // TODO b\n".toList
    let comment : Comment := ⟨.todo, "a // TODO b", 1⟩
    comment ∈ comments text ∧ ∃ place : Place text comment,
      (∃ line, (Text.pieces (· == '\n') text)[comment.line - 1 +
        (place.gap ++ place.lead).count '\n']? = some line ∧ place.rest <:+ line) ∧
      (comment.StaysOnLine text ↔ '\n' ∉ place.gap ∧
        ('\n' ∉ place.lead ∨ comment.text = "" ∨ place.colon = [':'] ∧ comment.text = ":")) := by
  have member : (⟨.todo, "a // TODO b", 1⟩ : Comment) ∈
      comments "x // TODO:\n\n  a // TODO b\n".toList := by decide +kernel
  exact ⟨member, (comments_stayInside_iff member).1 (by decide)⟩

/-- **Two comments that do not stay inside**: a mark with nothing behind it takes the next line for
its text, and a block goes beyond the `*/` of its first four characters. -/
theorem not_stayInside_nextLine :
    (∃ comment ∈ comments "// TODO\nconst x = 1;".toList,
      comment.kind ≠ .documentation ∧
      ∃ line, (Text.pieces (· == '\n') "// TODO\nconst x = 1;".toList)[comment.line - 1]? =
        some line ∧ ¬ comment.text.toList <:+: line) ∧
    ∃ comment ∈ comments "/**/ x */".toList,
      comment.kind = .documentation ∧ ¬ comment.ClosesFirst "/*" := by
  constructor
  · exact ⟨⟨.todo, "const x = 1;", 1⟩, by decide +kernel, by decide, "// TODO".toList, rfl,
      by decide +kernel⟩
  · have member : (⟨.documentation, "/**/ x */", 1⟩ : Comment) ∈ comments "/**/ x */".toList := by
      decide +kernel
    refine ⟨_, member, rfl, fun closes => ?_⟩
    exact (closesFirst_iff (exists_block member rfl).2).mp closes (by decide)

end CodeBrief.Script
