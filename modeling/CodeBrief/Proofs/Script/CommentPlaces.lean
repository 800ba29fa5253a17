/-
**Where the comments of a script stand.**

A marked comment is read as two slashes, blanks, its mark, a colon or none, blanks, and the rest of a
line. The blanks are of any kind, line feeds among them, so that the text may be on a later line than
the slashes.

* `marked_eq_some` — what a marked comment takes.
* `marked_ne_none` — a mark behind two slashes is read, unless blanks only follow it.
* `unread_before_on_line` — a comment is the first one on its line.
* `Place` — where a marked comment stands; `exists_place` — every one has a place.
-/

import CodeBrief.Proofs.Brief.Comments
import CodeBrief.Proofs.Pattern.Reading
import CodeBrief.Proofs.Text.Pieces
import CodeBrief.Script.Comment

namespace CodeBrief

open Pattern

namespace Script

/-- The text of a mark: it begins with no blank, and no slash and no line feed stands in it. -/
structure IsMark (mark : List Char) : Prop where
  nonempty : mark ≠ []
  first : ∀ rest, EndsRun Text.isBlank (mark ++ rest)
  noSlash : '/' ∉ mark
  noBreak : '\n' ∉ mark

theorem isMark_name {kind : CommentKind} (marks : kind ≠ .documentation) :
    IsMark kind.name.toList := by
  cases kind with
  | documentation => exact absurd rfl marks
  | _ => exact ⟨by decide, fun rest => endsRun_cons (by decide) _, by decide, by decide⟩

/-! ### What a marked comment takes -/

theorem restOfLine_eq_some {text value after : List Char}
    (read : restOfLine text = some (value, after)) :
    text = value ++ after ∧ value ≠ [] ∧ '\n' ∉ value ∧ EndsLine after := by
  obtain ⟨some, rfl, rfl⟩ := runOf_eq_some.mp read
  exact ⟨List.takeWhile_append_dropWhile.symm, List.ne_nil_of_length_pos some,
    not_mem_takeWhile text, endsLine_dropWhile text⟩

/-- The last blank that ends no line stands before line feeds only. -/
theorem lastBlankOfLine?_suffix {gap left : List Char} (found : lastBlankOfLine? gap = some left) :
    left <:+ gap := by
  unfold lastBlankOfLine? at found
  split at found
  · cases found
  · rename_i c others same
    obtain rfl := Option.some.inj found
    obtain ⟨count, feeds⟩ : ∃ count, gap.reverse.takeWhile (· == '\n') =
        List.replicate count '\n' := by
      refine ⟨_, List.eq_replicate_of_mem fun d member => ?_⟩
      have feed := List.mem_takeWhile_imp member
      exact beq_iff_eq.mp feed
    have whole := List.takeWhile_append_dropWhile (p := (· == '\n')) (l := gap.reverse)
    rw [same, feeds] at whole
    have turned := congrArg List.reverse whole
    rw [List.reverse_reverse, List.reverse_append, List.reverse_replicate, List.reverse_cons,
      List.append_assoc] at turned
    rw [feeds]
    exact ⟨others.reverse, turned⟩

theorem markedText_eq_some {text value after : List Char}
    (read : markedText text = some (value, after)) :
    ∃ lead, text = lead ++ value ++ after ∧ (∀ c ∈ lead, Text.isBlank c = true) ∧ value ≠ [] ∧
      '\n' ∉ value ∧ EndsLine after := by
  unfold markedText at read
  split at read
  · rename_i blank
    obtain ⟨left, found, rest⟩ := Option.bind_eq_some_iff.mp read
    obtain ⟨lead, rfl⟩ := lastBlankOfLine?_suffix found
    obtain ⟨rfl, facts⟩ := restOfLine_eq_some rest
    rw [List.dropWhile_eq_nil_iff] at blank
    exact ⟨lead, (List.append_assoc _ _ _).symm,
      fun c member => blank c (List.mem_append_left _ member), facts⟩
  · obtain ⟨same, facts⟩ := restOfLine_eq_some read
    refine ⟨text.takeWhile Text.isBlank, ?_, fun c member => List.mem_takeWhile_imp member, facts⟩
    rw [List.append_assoc, ← same, List.takeWhile_append_dropWhile]

/-- **What a marked comment takes**: two slashes, blanks, the mark, its colon or none, blanks, and
the rest of the line that they end on. -/
theorem marked_eq_some {mark : String} {text value after : List Char}
    (read : marked mark text = some (value, after)) :
    ∃ gap colon lead, text = '/' :: '/' :: gap ++ mark.toList ++ colon ++ lead ++ value ++ after ∧
      (∀ c ∈ gap, Text.isBlank c = true) ∧ (colon = [] ∨ colon = [':']) ∧
      (∀ c ∈ lead, Text.isBlank c = true) ∧ value ≠ [] ∧ '\n' ∉ value ∧ EndsLine after := by
  obtain ⟨_, _, slashes, behindSlashes⟩ := bind_eq_some.mp read
  obtain ⟨_, _, blank, behindGap⟩ := bind_eq_some.mp behindSlashes
  obtain ⟨_, behind, named, behindMark⟩ := bind_eq_some.mp behindGap
  have orElse : ((literal ":" >>= fun _ => markedText) behind).orElse
      (fun _ => markedText behind) = some (value, after) := behindMark
  obtain ⟨gap, rfl, gapBlank⟩ := takes_blanks_all _ _ _ blank
  obtain rfl := literal_eq_some.mp slashes
  obtain rfl := literal_eq_some.mp named
  cases colon : (literal ":" >>= fun _ => markedText) behind with
  | some result =>
    rw [colon] at orElse
    obtain rfl := Option.some.inj orElse
    obtain ⟨_, _, sign, rest⟩ := bind_eq_some.mp colon
    obtain rfl := literal_eq_some.mp sign
    obtain ⟨lead, rfl, leadBlank, facts⟩ := markedText_eq_some rest
    exact ⟨gap, [':'], lead, by simp, gapBlank, Or.inr rfl, leadBlank, facts⟩
  | none =>
    rw [colon] at orElse
    obtain ⟨lead, rfl, leadBlank, facts⟩ := markedText_eq_some orElse
    exact ⟨gap, [], lead, by simp, gapBlank, Or.inl rfl, leadBlank, facts⟩

theorem takesSome_marked (mark : String) : Takes (marked mark) (· ≠ []) := by
  intro text value after read
  obtain ⟨gap, colon, lead, rfl, -⟩ := marked_eq_some read
  exact ⟨'/' :: '/' :: gap ++ mark.toList ++ colon ++ lead ++ value, rfl, by simp⟩

/-- **A mark behind two slashes is read** if anything but blanks follows it. -/
theorem marked_ne_none {mark : String} (isMark : IsMark mark.toList) {gap tail : List Char}
    (blank : ∀ c ∈ gap, Text.isBlank c = true) {c : Char} (member : c ∈ tail)
    (solid : Text.isBlank c = false) :
    marked mark ('/' :: '/' :: gap ++ mark.toList ++ tail) ≠ none := by
  have text : markedText tail ≠ none := by
    unfold markedText
    cases ends : tail.dropWhile Text.isBlank with
    | nil =>
      rw [List.dropWhile_eq_nil_iff] at ends
      rw [ends c member] at solid
      cases solid
    | cons d rest =>
      have first := List.head?_dropWhile_not Text.isBlank tail
      rw [ends] at first
      have other : (d != '\n') = true := by
        rw [bne_iff_ne]
        rintro rfl
        simp [Text.isBlank] at first
      simp [restOfLine, runOf, other]
  have whole : '/' :: '/' :: gap ++ mark.toList ++ tail =
      "//".toList ++ (gap ++ (mark.toList ++ tail)) := by simp
  rw [whole, marked, bind_of_read (literal_append "//" _),
    bind_of_read (blanks_append blank (isMark.first tail)), bind_of_read (literal_append mark tail)]
  show ((literal ":" >>= fun _ => markedText) tail).orElse (fun _ => markedText tail) ≠ none
  cases (literal ":" >>= fun _ => markedText) tail with
  | some result => exact Option.some_ne_none result
  | none => exact text

/-! ### The first comment of a line -/

/-- **Nothing is read before a match on its line** by a reader that takes lines up to their ends and
reads nothing where one ends. -/
theorem unread_before_on_line {α : Type} {reader : Reader α} (takes : Takes reader (· ≠ []))
    (ends : ∀ text value after, reader text = some (value, after) → EndsLine after)
    (begins : ∀ rest, reader ('\n' :: rest) = none) {text : List Char} {hit : Match α}
    (member : hit ∈ allMatches (fun _ => reader) text) {front back rest : List Char}
    (whole : text = front ++ back ++ rest) (before : hit.before.reverse = front ++ back)
    (nonempty : back ≠ []) (inLine : '\n' ∉ back) : reader (back ++ rest) = none := by
  refine allMatches_induction takes (motive := fun text hits => ∀ hit ∈ hits, ∀ front,
    text = front ++ back ++ rest → hit.before.reverse = front ++ back →
      reader (back ++ rest) = none) ?_ ?_ ?_ text hit member front whole before
  · intro hit inside
    cases inside
  · intro taken after value _ read ih hit inside front whole before
    rcases List.mem_cons.mp inside with rfl | later
    · exact absurd (List.append_eq_nil_iff.mp before.symm).2 nonempty
    · obtain ⟨hit, within, rfl⟩ := List.mem_map.mp later
      have parts : taken ++ hit.before.reverse = front ++ back := by
        simpa [Match.behind] using before
      rcases List.append_eq_append_iff.mp parts with ⟨middle, rfl, same⟩ | ⟨middle, rfl, same⟩
      · refine ih hit within middle ?_ same
        rw [List.append_assoc, List.append_assoc] at whole
        exact (List.append_cancel_left whole).trans (List.append_assoc _ _ _).symm
      · -- The earlier match ends the line, on which the later one would have to begin.
        exfalso
        obtain ⟨more, split, readHit⟩ := split_of_mem_matchesFrom within
        rw [List.reverse_nil, List.nil_append] at split
        have endsLine := ends _ _ _ read
        cases between : hit.before.reverse with
        | cons d others =>
          rw [between] at split same
          obtain rfl := endsLine d _ split
          exact inLine (same ▸ List.mem_append_right _ List.mem_cons_self)
        | nil =>
          rw [between, List.nil_append] at split
          cases more with
          | nil =>
            obtain ⟨piece, isPiece, long⟩ := takes _ _ _ readHit
            exact long (List.append_eq_nil_iff.mp isPiece.symm).1
          | cons d more =>
            obtain rfl := endsLine d _ split
            rw [begins] at readHit
            cases readHit
  · intro c rest' unread ih hit inside front whole before
    obtain ⟨hit, within, rfl⟩ := List.mem_map.mp inside
    have parts : c :: hit.before.reverse = front ++ back := by
      simpa [Match.behind] using before
    cases front with
    | nil =>
      rw [List.nil_append] at whole
      rw [← whole]
      exact unread
    | cons d front =>
      obtain ⟨rfl, same⟩ := List.cons.inj parts
      exact ih hit within front (List.cons.inj whole).2 same

/-! ### The place of a marked comment -/

/-- Where a marked comment stands in a text. -/
structure Place (text : List Char) (comment : Comment) where
  /-- What stands before the two slashes. -/
  before : List Char
  /-- The blanks between the slashes and the mark. -/
  gap : List Char
  /-- The colon behind the mark, unless it is left to the text of the comment. -/
  colon : List Char
  /-- The blanks in front of the text. -/
  lead : List Char
  /-- The rest of the line that these blanks end on. -/
  rest : List Char
  /-- What follows this line. -/
  after : List Char
  whole : text = before ++
    ('/' :: '/' :: gap ++ comment.kind.name.toList ++ (colon ++ lead ++ rest ++ after))
  gap_blank : ∀ c ∈ gap, Text.isBlank c = true
  colon_optional : colon = [] ∨ colon = [':']
  lead_blank : ∀ c ∈ lead, Text.isBlank c = true
  rest_inLine : '\n' ∉ rest
  after_endsLine : EndsLine after
  text_eq : comment.text.toList = Text.strip rest
  line_eq : comment.line = before.count '\n' + 1
  /-- Nothing else on the line is read in front of the comment. -/
  first : ∀ front back, before = front ++ back → back ≠ [] → '\n' ∉ back →
    marked comment.kind.name (back ++ ('/' :: '/' :: gap ++ comment.kind.name.toList ++
      (colon ++ lead ++ rest ++ after))) = none

theorem mem_comments {text : List Char} {comment : Comment} :
    comment ∈ comments text ↔ comment ∈ commentsOf comment.kind text := by
  have own : ∀ kind, comment ∈ commentsOf kind text → comment.kind = kind := by
    intro kind member
    obtain ⟨hit, -, rfl⟩ := List.mem_map.mp member
    rfl
  constructor
  · intro member
    obtain ⟨kind, -, inside⟩ := List.mem_flatMap.mp member
    rwa [own kind inside]
  · intro inside
    refine List.mem_flatMap.mpr ⟨comment.kind, ?_, inside⟩
    cases comment.kind <;> decide

theorem commentsOf_marked {kind : CommentKind} (marks : kind ≠ .documentation)
    (text : List Char) : commentsOf kind text =
      (allMatches (fun _ => marked kind.name) text).map fun hit =>
        ⟨kind, String.ofList (Text.strip hit.value), hit.before.count '\n' + 1⟩ := by
  cases kind with
  | documentation => exact absurd rfl marks
  | _ => rfl

theorem exists_place {text : List Char} {comment : Comment} (member : comment ∈ comments text)
    (marks : comment.kind ≠ .documentation) : Nonempty (Place text comment) := by
  have inside := mem_comments.mp member
  rw [commentsOf_marked marks] at inside
  obtain ⟨hit, found, same⟩ := List.mem_map.mp inside
  obtain ⟨back, whole, read⟩ := split_of_mem_matchesFrom found
  rw [List.reverse_nil, List.nil_append] at whole
  obtain ⟨gap, colon, lead, taken, gapBlank, optional, leadBlank, -, inLine, endsLine⟩ :=
    marked_eq_some read
  have isBack : back = '/' :: '/' :: gap ++ comment.kind.name.toList ++
      (colon ++ lead ++ hit.value ++ hit.after) := by simp [taken]
  refine ⟨⟨hit.before.reverse, gap, colon, lead, hit.value, hit.after, ?_, gapBlank, optional,
    leadBlank, inLine, endsLine, ?_, ?_, ?_⟩⟩
  · rw [whole, isBack]
  · rw [← same, String.toList_ofList]
  · rw [← same, List.count_reverse]
  · intro front behind isBefore nonempty free
    rw [← isBack]
    refine unread_before_on_line (takesSome_marked _) (fun text value after read => ?_)
      (fun rest => ?_) found ?_ isBefore nonempty free
    · obtain ⟨-, -, -, -, -, -, -, -, -, ends⟩ := marked_eq_some read
      exact ends
    · exact bind_of_none (literal_of_not_mem (by decide) (by decide) rest)
    · rw [whole, isBefore]

end Script

end CodeBrief
