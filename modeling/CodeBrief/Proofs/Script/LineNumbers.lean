/-
**The lines of comments and of risky constructs.**

A comment is told with the number of the line on which it begins, and so is a risky construct. The
numbers come about in two ways: before a comment line feeds are counted, while a risky construct is
looked for line by line, where a line ends at a break of any kind. So what stands on one line is told
under one number as long as the text in front of it has no stray break, and else under two.

* `placedComments` — the comments of a text with the places at which they begin.
* `placedFindings` — the findings of a text with the places of what is found.
* `line_of_mem_placedComments`, `line_of_mem_placedFindings` — the two ways to count.
* `lineNumbers_agree_iff` — the numbers on one line.
-/

import CodeBrief.Proofs.Pattern.Matches
import CodeBrief.Proofs.Script.CommentPlaces
import CodeBrief.Proofs.Script.Hazards
import CodeBrief.Proofs.Text.LineNumbers

namespace CodeBrief

namespace Script

open Pattern

/-! ### Comments and where they begin -/

/-- The reader of the comments of a kind. -/
def CommentKind.reader : CommentKind → Reader (List Char)
  | .documentation => documentationBlock
  | kind => marked kind.name

/-- The record of a comment that has been read. -/
def CommentKind.record (kind : CommentKind) (hit : Match (List Char)) : Comment where
  kind := kind
  text := String.ofList (if kind = .documentation then hit.value else Text.strip hit.value)
  line := hit.before.count '\n' + 1

/-- The comments of a text with the places at which they begin. -/
def placedComments (text : List Char) : List (Nat × Comment) :=
  [CommentKind.todo, .fixme, .note, .documentation].flatMap fun kind =>
    (allMatches (fun _ => kind.reader) text).map fun hit => (hit.before.length, kind.record hit)

theorem commentsOf_eq (kind : CommentKind) (text : List Char) :
    commentsOf kind text = (allMatches (fun _ => kind.reader) text).map kind.record := by
  cases kind <;> rfl

/-- Every comment begins at some place. -/
theorem map_snd_placedComments (text : List Char) :
    (placedComments text).map Prod.snd = comments text := by
  unfold placedComments comments
  rw [List.map_flatMap]
  refine List.flatMap_congr fun kind _ => ?_
  rw [List.map_map, commentsOf_eq]
  rfl

/-- **The line of a comment** is told by the line feeds in front of it. -/
theorem line_of_mem_placedComments {text : List Char} {place : Nat} {comment : Comment}
    (member : (place, comment) ∈ placedComments text) :
    comment.line = (text.take place).count '\n' + 1 := by
  obtain ⟨kind, -, inside⟩ := List.mem_flatMap.mp member
  obtain ⟨hit, isMatch, same⟩ := List.mem_map.mp inside
  obtain ⟨rfl, rfl⟩ := Prod.mk.inj same
  have before := (read_of_mem_allMatches isMatch).1
  rw [← List.reverse_eq_iff] at before
  rw [← before, List.count_reverse]
  rfl

/-! ### Findings and what they are about -/

/-- The risky constructs with the patterns that find them. -/
def hazardPatterns : List (Hazard × Finder Unit) :=
  hazards.zip [callOf "eval", functionConstructor, markupAssignment, callOf "document.write",
    credential]

theorem map_fst_hazardPatterns : hazardPatterns.map Prod.fst = hazards := rfl

theorem isIn_of_mem_hazardPatterns {hazard : Hazard} {pattern : Finder Unit}
    (member : (hazard, pattern) ∈ hazardPatterns) : hazard.isIn = occurs pattern := by
  have all : ∀ pair ∈ hazardPatterns, pair.1.isIn = occurs pair.2 := by
    simp [hazardPatterns, hazards]
  exact all _ member

/-- The columns of a line at which a pattern matches. -/
def columnsOf (pattern : Finder Unit) (line : List Char) : List Nat :=
  (List.range line.length).filter fun column =>
    (pattern (line.take column).reverse (line.drop column)).isSome

/-- The findings of the text of a file with the places of what is found. -/
def placedFindings (path : String) (text : List Char) : List (Nat × SecurityFinding) :=
  ((Text.linesFrom 0 text).zipIdx 1).flatMap fun ((start, line), number) =>
    hazardPatterns.flatMap fun (hazard, pattern) =>
      (columnsOf pattern line).map fun column =>
        (start + column, ⟨hazard.name, path, number, hazard.severity⟩)

/-- A pattern occurs in a line if it matches at one of its columns. -/
theorem occursFrom_iff {pattern : Finder Unit} {before line : List Char} :
    occursFrom pattern before line = true ↔ ∃ column < line.length,
      (pattern ((line.take column).reverse ++ before) (line.drop column)).isSome = true := by
  induction line generalizing before with
  | nil => simp [occursFrom]
  | cons c line ih =>
    rw [occursFrom, Bool.or_eq_true, ih]
    constructor
    · rintro (here | ⟨column, inside, later⟩)
      · exact ⟨0, Nat.succ_pos _, here⟩
      · exact ⟨column + 1, Nat.succ_lt_succ inside, by simpa using later⟩
    · rintro ⟨column, inside, found⟩
      cases column with
      | zero => exact Or.inl found
      | succ column => exact Or.inr ⟨column, Nat.lt_of_succ_lt_succ inside, by simpa using found⟩

theorem exists_mem_columnsOf_iff {pattern : Finder Unit} {line : List Char} :
    (∃ column, column ∈ columnsOf pattern line) ↔ occurs pattern line = true := by
  rw [occurs, occursFrom_iff]
  simp [columnsOf]

theorem mem_placedFindings {path : String} {text : List Char} {place : Nat}
    {finding : SecurityFinding} : (place, finding) ∈ placedFindings path text ↔
      ∃ start line number hazard pattern column,
        ((start, line), number) ∈ (Text.linesFrom 0 text).zipIdx 1 ∧
        (hazard, pattern) ∈ hazardPatterns ∧ column ∈ columnsOf pattern line ∧
        place = start + column ∧ finding = ⟨hazard.name, path, number, hazard.severity⟩ := by
  simp only [placedFindings, List.mem_flatMap, List.mem_map, Prod.exists, Prod.mk.injEq]
  constructor
  · rintro ⟨start, line, number, isLine, hazard, pattern, isPattern, column, isColumn, rfl, rfl⟩
    exact ⟨start, line, number, hazard, pattern, column, isLine, isPattern, isColumn, rfl, rfl⟩
  · rintro ⟨start, line, number, hazard, pattern, column, isLine, isPattern, isColumn, rfl, rfl⟩
    exact ⟨start, line, number, isLine, hazard, pattern, isPattern, column, isColumn, rfl, rfl⟩

theorem mem_findingsOn {path : String} {line : List Char} {number : Nat}
    {finding : SecurityFinding} : finding ∈ findingsOn path line number ↔
      ∃ hazard pattern column, (hazard, pattern) ∈ hazardPatterns ∧ column ∈ columnsOf pattern line ∧
        finding = ⟨hazard.name, path, number, hazard.severity⟩ := by
  unfold findingsOn
  constructor
  · intro member
    obtain ⟨hazard, isHazard, rfl⟩ := List.mem_map.mp member
    obtain ⟨known, isIn⟩ := List.mem_filter.mp isHazard
    rw [← map_fst_hazardPatterns] at known
    obtain ⟨⟨_, pattern⟩, isPattern, rfl⟩ := List.mem_map.mp known
    rw [isIn_of_mem_hazardPatterns isPattern] at isIn
    obtain ⟨column, isColumn⟩ := exists_mem_columnsOf_iff.mpr isIn
    exact ⟨_, pattern, column, isPattern, isColumn, rfl⟩
  · rintro ⟨hazard, pattern, column, isPattern, isColumn, rfl⟩
    refine List.mem_map.mpr ⟨hazard, List.mem_filter.mpr ⟨?_, ?_⟩, rfl⟩
    · rw [← map_fst_hazardPatterns]
      exact List.mem_map_of_mem isPattern
    · rw [isIn_of_mem_hazardPatterns isPattern]
      exact exists_mem_columnsOf_iff.mp ⟨column, isColumn⟩

/-- **Every finding is about some place.** -/
theorem mem_hazardsIn_iff {path : String} {text : List Char} {finding : SecurityFinding} :
    finding ∈ hazardsIn path text ↔ ∃ place, (place, finding) ∈ placedFindings path text := by
  rw [hazardsIn, hazardsFrom_eq, ← Text.map_snd_linesFrom 0 text, List.zipIdx_map, List.mem_flatMap]
  constructor
  · rintro ⟨_, isEntry, isFinding⟩
    obtain ⟨⟨⟨start, line⟩, number⟩, isLine, rfl⟩ := List.mem_map.mp isEntry
    obtain ⟨hazard, pattern, column, isPattern, isColumn, rfl⟩ := mem_findingsOn.mp isFinding
    exact ⟨start + column, mem_placedFindings.mpr
      ⟨start, line, number, hazard, pattern, column, isLine, isPattern, isColumn, rfl, rfl⟩⟩
  · rintro ⟨place, member⟩
    obtain ⟨start, line, number, hazard, pattern, column, isLine, isPattern, isColumn, -, isFinding⟩ :=
      mem_placedFindings.mp member
    exact ⟨(line, number), List.mem_map.mpr ⟨_, isLine, rfl⟩,
      mem_findingsOn.mpr ⟨hazard, pattern, column, isPattern, isColumn, isFinding⟩⟩

/-- **The line of a finding** is told by the breaks in front of it. -/
theorem line_of_mem_placedFindings {path : String} {text : List Char} {place : Nat}
    {finding : SecurityFinding} (member : (place, finding) ∈ placedFindings path text) :
    finding.line = Text.lineBreaks (text.take place) + 1 := by
  obtain ⟨start, line, number, hazard, pattern, column, isLine, -, isColumn, rfl, rfl⟩ :=
    mem_placedFindings.mp member
  obtain ⟨above, below, rfl, rfl, rfl, inLine⟩ := Text.split_of_mem_linesFrom isLine
  have short : column ≤ line.length :=
    Nat.le_of_lt (List.mem_range.mp (List.mem_filter.mp isColumn).1)
  have front : (above ++ line ++ below).take (0 + above.length + column) =
      above ++ line.take column := by
    rw [Nat.zero_add, List.append_assoc, List.take_length_add_append,
      List.take_append_of_le_length short]
  rw [front, Text.lineBreaks_append_inside above fun c member =>
    inLine c (List.mem_of_mem_take member)]
  show ((1 + Text.lineBreaks above : Nat) : Int) = Text.lineBreaks above + 1
  omega

end Script

open Script (placedComments placedFindings)

/-! ### The numbers on one line -/

/-- **Line numbers agree as long as no stray break stands in front.** Each comment of a script begins
at some place, and each finding is about some place. If there is no line break of any kind between
the two, then the number of the finding exceeds that of the comment by the number of stray breaks in
front of them; so the numbers are the same just if each break in front of the comment is a line feed,
or a carriage return in front of one. -/
theorem lineNumbers_agree_iff {path content : String} (script : Path.isScript path = true) :
    (placedComments content.toList).map Prod.snd = Script.comments content.toList ∧
    (∀ finding, finding ∈ scanSecurity (.ofList [(path, content)]) ↔
      ∃ place, (place, finding) ∈ placedFindings path content.toList) ∧
    ∀ begins comment found finding, (begins, comment) ∈ placedComments content.toList →
      (found, finding) ∈ placedFindings path content.toList →
      (∀ c ∈ Text.between content.toList begins found, Text.isLineBreak c = false) →
      finding.line = comment.line + Text.strayBreaks (content.toList.take begins) ∧
      (finding.line = comment.line ↔ ∀ front c back,
        content.toList.take begins = front ++ c :: back → Text.isLineBreak c = true →
          c = '\n' ∨ c = '\r' ∧ back.head? = some '\n') := by
  refine ⟨Script.map_snd_placedComments _, fun finding => ?_, ?_⟩
  · rw [scanSecurity_file, if_pos script]
    exact Script.mem_hazardsIn_iff
  · intro begins comment found finding isComment isFinding sameLine
    have exceeds : finding.line =
        comment.line + Text.strayBreaks (content.toList.take begins) := by
      rw [Script.line_of_mem_placedFindings isFinding, Script.line_of_mem_placedComments isComment,
        ← Text.lineBreaks_take_eq sameLine, Text.lineBreaks]
      omega
    refine ⟨exceeds, ?_⟩
    rw [← Text.strayBreaks_eq_zero_iff]
    omega

/-- A finding on the line of a comment, behind two stray breaks and a line feed. -/
theorem lineNumbers_agree_iff_twoStray :
    let content := "x\r\n\u2028y\x0b z; // TODO: drop eval(z)"
    let comment : Script.Comment := ⟨.todo, "drop eval(z)", 2⟩
    let finding : Script.SecurityFinding := ⟨"Use of eval", "a.js", 4, .high⟩
    Path.isScript "a.js" = true ∧ (10, comment) ∈ placedComments content.toList ∧
      (24, finding) ∈ placedFindings "a.js" content.toList ∧
      Text.strayBreaks (content.toList.take 10) = 2 ∧
      finding.line = comment.line + Text.strayBreaks (content.toList.take 10) := by
  intro content comment finding
  have script : Path.isScript "a.js" = true := by decide +kernel
  have isComment : (10, comment) ∈ placedComments content.toList := by decide +kernel
  have isFinding : (24, finding) ∈ placedFindings "a.js" content.toList := by decide +kernel
  have noBreak : (Text.between content.toList 10 24).any Text.isLineBreak = false := by
    decide +kernel
  have sameLine : ∀ c ∈ Text.between content.toList 10 24, Text.isLineBreak c = false :=
    fun c member => eq_false_of_ne_true (List.any_eq_false.mp noBreak c member)
  have agree := (lineNumbers_agree_iff script).2.2 10 comment 24 finding isComment isFinding sameLine
  exact ⟨script, isComment, isFinding, by decide +kernel, agree.1⟩

/-- **Two numbers for one line**: a line separator breaks the line in front of a finding, and not in
front of the comment that the finding is in. -/
theorem not_sameNumber_lineSeparator :
    ∃ content : String, ∃ begins comment found finding,
      (begins, comment) ∈ placedComments content.toList ∧
      (found, finding) ∈ placedFindings "a.js" content.toList ∧
      (∀ c ∈ Text.between content.toList begins found, Text.isLineBreak c = false) ∧
      comment ∈ Script.comments content.toList ∧
      finding ∈ scanSecurity (.ofList [("a.js", content)]) ∧
      finding.line ≠ comment.line := by
  have noBreak : (Text.between "x();\u2028// TODO: drop eval(y)".toList 5 19).any
      Text.isLineBreak = false := by decide +kernel
  refine ⟨"x();\u2028// TODO: drop eval(y)", 5, ⟨.todo, "drop eval(y)", 1⟩, 19,
    ⟨"Use of eval", "a.js", 2, .high⟩, by decide +kernel, by decide +kernel, ?_, by decide +kernel,
    by decide +kernel, by decide⟩
  exact fun c member => eq_false_of_ne_true (List.any_eq_false.mp noBreak c member)

end CodeBrief
