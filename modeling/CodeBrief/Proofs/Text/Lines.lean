/-
**Lines of a text that is cut behind a line feed.**

A carriage return and a line feed behind it break a line once, so that a text cannot be cut at every
break without changing its lines. Behind a line feed it can: nothing that follows belongs to the same
break.

* `lines_returnNewLine`, `lines_cons_of_break`, `lines_cons_of_inside` — what stands in front of a
  text does to its lines.
* `lines_append_newLine` — the lines of a text are those up to a line feed and those behind it.
-/

import CodeBrief.Text.Line

namespace CodeBrief.Text

section Front

variable {c : Char} {rest : List Char}

/-- A break in front of a text, unless the two are one break. -/
theorem lines_cons_of_break (breaks : isLineBreak c = true)
    (apart : c = '\r' → ∀ tail, rest ≠ '\n' :: tail) : lines (c :: rest) = [] :: lines rest := by
  rw [lines.eq_3 c rest fun tail isReturn => apart isReturn tail, if_pos breaks]

/-- A character that breaks no line stands at the head of the first one. -/
theorem lines_cons_of_inside (inside : isLineBreak c = false) :
    lines (c :: rest) = (c :: (lines rest).headD []) :: (lines rest).tail := by
  have notReturn : c ≠ '\r' := by
    rintro rfl
    exact absurd inside (by decide)
  rw [lines.eq_3 c rest fun tail isReturn => absurd isReturn notReturn,
    if_neg (Bool.eq_false_iff.mp inside)]
  cases lines rest <;> rfl

theorem lines_newLine (rest : List Char) : lines ('\n' :: rest) = [] :: lines rest :=
  lines_cons_of_break (by decide) fun isReturn => absurd isReturn (by decide)

/-- A carriage return in front of a line feed breaks nothing further. -/
theorem lines_returnNewLine (rest : List Char) :
    lines ('\r' :: '\n' :: rest) = lines ('\n' :: rest) := by
  rw [lines, lines_newLine]

theorem lines_ne_nil {text : List Char} (nonempty : text ≠ []) : lines text ≠ [] := by
  fun_cases lines text <;> simp_all

end Front

/-- **A text that is cut behind a line feed** has the lines of its two parts. -/
theorem lines_append_newLine (above below : List Char) :
    lines (above ++ '\n' :: below) = lines (above ++ ['\n']) ++ lines below := by
  induction above with
  | nil =>
    rw [List.nil_append, List.nil_append, lines_newLine, lines_newLine]
    rfl
  | cons c above ih =>
    rw [List.cons_append, List.cons_append]
    by_cases breaks : isLineBreak c = true
    · by_cases joined : c = '\r' ∧ ∀ d ∈ above.head?, d = '\n'
      · -- The line feed that follows is one of `above`, or the one at the cut.
        obtain ⟨rfl, follows⟩ := joined
        cases above with
        | nil =>
          rw [List.nil_append, List.nil_append, lines_returnNewLine, lines_returnNewLine]
          exact ih
        | cons d above =>
          obtain rfl := follows d rfl
          rw [List.cons_append, List.cons_append, lines_returnNewLine, lines_returnNewLine]
          exact ih
      · have apart : ∀ more, c = '\r' → ∀ tail, above ++ '\n' :: more ≠ '\n' :: tail := by
          rintro more rfl tail same
          refine joined ⟨rfl, fun d first => ?_⟩
          cases above with
          | nil => cases first
          | cons e above =>
            obtain rfl := Option.some.inj first
            exact (List.cons.inj same).1
        rw [lines_cons_of_break breaks (apart below), lines_cons_of_break breaks (apart []), ih]
        rfl
    · have inside : isLineBreak c = false := eq_false_of_ne_true breaks
      obtain ⟨first, others, parts⟩ :=
        List.exists_cons_of_ne_nil (lines_ne_nil (List.append_ne_nil_of_right_ne_nil above
          (List.cons_ne_nil '\n' [])))
      rw [lines_cons_of_inside inside, lines_cons_of_inside inside, ih, parts]
      rfl

end CodeBrief.Text
