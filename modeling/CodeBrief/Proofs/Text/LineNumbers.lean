/-
**The numbers of lines and the places at which they begin.**

The number of a line is the number of line breaks in front of it. Of these, line feeds are easily
counted, with a carriage return in front of them or without one; all other breaks are stray ones.

* `linesFrom` — the lines of a text with the places at which they begin.
* `strayBreaks`, `lineBreaks` — the number of stray breaks, and of all breaks.
* `strayBreaks_eq_zero_iff` — when a text has no stray break.
* `lineBreaks_append_inside` — characters that break no line do not count.
* `lineBreaks_take_eq` — places with no break between them have as many breaks in front of them.
* `split_of_mem_linesFrom` — what stands in front of a line has as many breaks as the line's number
  tells.
-/

import CodeBrief.Proofs.Text.Lines
import Mathlib.Data.List.Basic

namespace CodeBrief.Text

/-! ### Counting breaks -/

/-- Whether a text begins with a break that is neither a line feed nor a carriage return in front of
one. -/
def startsStray : List Char → Bool
  | [] => false
  | c :: rest => isLineBreak c && c != '\n' && !(c == '\r' && rest.head? == some '\n')

/-- The number of breaks that are neither line feeds nor carriage returns in front of one. -/
def strayBreaks : List Char → Nat
  | [] => 0
  | c :: rest => (if startsStray (c :: rest) then 1 else 0) + strayBreaks rest

/-- The number of line breaks, where a carriage return and a line feed behind it are one. -/
def lineBreaks (text : List Char) : Nat :=
  text.count '\n' + strayBreaks text

theorem startsStray_iff {c : Char} {rest : List Char} :
    startsStray (c :: rest) = true ↔
      isLineBreak c = true ∧ ¬ (c = '\n' ∨ c = '\r' ∧ rest.head? = some '\n') := by
  simp [startsStray, and_assoc, imp_iff_not_or]

/-- **When a text has no stray break**: each of its breaks is a line feed or stands in front of
one. -/
theorem strayBreaks_eq_zero_iff {text : List Char} :
    strayBreaks text = 0 ↔ ∀ front c back, text = front ++ c :: back → isLineBreak c = true →
      c = '\n' ∨ c = '\r' ∧ back.head? = some '\n' := by
  induction text with
  | nil => simp [strayBreaks]
  | cons d rest ih =>
    have step : strayBreaks (d :: rest) = 0 ↔
        startsStray (d :: rest) = false ∧ strayBreaks rest = 0 := by
      rw [strayBreaks]
      cases startsStray (d :: rest) <;> simp
    rw [step, ih, ← Bool.not_eq_true, startsStray_iff]
    constructor
    · rintro ⟨here, later⟩ front c back whole breaks
      cases front with
      | nil =>
        obtain ⟨rfl, rfl⟩ := List.cons.inj whole
        exact not_not.mp fun stray => here ⟨breaks, stray⟩
      | cons e front => exact later front c back (List.cons.inj whole).2 breaks
    · intro all
      refine ⟨fun ⟨breaks, stray⟩ => stray (all [] d rest rfl breaks), ?_⟩
      exact fun front c back whole => all (d :: front) c back (by rw [whole]; rfl)

section Front

variable {c : Char} {rest : List Char}

theorem lineBreaks_cons_of_inside (inside : isLineBreak c = false) :
    lineBreaks (c :: rest) = lineBreaks rest := by
  have notFeed : c ≠ '\n' := by
    rintro rfl
    exact absurd inside (by decide)
  rw [lineBreaks, List.count_cons_of_ne notFeed]
  simp [strayBreaks, startsStray, inside, lineBreaks]

/-- A break in front of a text, unless the two are one break. -/
theorem lineBreaks_cons_of_break (breaks : isLineBreak c = true)
    (apart : c = '\r' → rest.head? ≠ some '\n') : lineBreaks (c :: rest) = lineBreaks rest + 1 := by
  by_cases feed : c = '\n'
  · subst feed
    simp [lineBreaks, strayBreaks, startsStray]
    omega
  · have stray : startsStray (c :: rest) = true :=
      startsStray_iff.mpr ⟨breaks, fun joined =>
        joined.elim feed fun ⟨isReturn, follows⟩ => apart isReturn follows⟩
    rw [lineBreaks, List.count_cons_of_ne feed, strayBreaks, if_pos stray, lineBreaks]
    omega

theorem lineBreaks_returnNewLine (rest : List Char) :
    lineBreaks ('\r' :: '\n' :: rest) = lineBreaks rest + 1 := by
  have notStray : startsStray ('\r' :: '\n' :: rest) = false := rfl
  have feed : lineBreaks ('\n' :: rest) = lineBreaks rest + 1 :=
    lineBreaks_cons_of_break (by decide) fun isReturn => absurd isReturn (by decide)
  rw [← feed, lineBreaks, List.count_cons_of_ne (by decide), strayBreaks, notStray, lineBreaks]
  simp

end Front

/-- **Characters that break no line** do not count at the end of a text. -/
theorem lineBreaks_append_inside (front : List Char) {back : List Char}
    (inside : ∀ c ∈ back, isLineBreak c = false) : lineBreaks (front ++ back) = lineBreaks front := by
  induction front with
  | nil =>
    induction back with
    | nil => rfl
    | cons c back ih =>
      rw [List.forall_mem_cons] at inside
      exact (lineBreaks_cons_of_inside inside.1).trans (ih inside.2)
  | cons c front ih =>
    have head : (front ++ back).head? = some '\n' ↔ front.head? = some '\n' := by
      cases front with
      | cons d front => rfl
      | nil =>
        refine iff_of_false (fun first => ?_) (by simp)
        exact absurd (inside _ (List.mem_of_mem_head? first)) (by decide)
    have stray : startsStray (c :: (front ++ back)) = startsStray (c :: front) := by
      rw [Bool.eq_iff_iff, startsStray_iff, startsStray_iff, head]
    unfold lineBreaks at ih ⊢
    rw [List.cons_append, strayBreaks, strayBreaks, stray, List.count_cons, List.count_cons]
    omega

/-- What stands between two places of a text. -/
def between (text : List Char) (first second : Nat) : List Char :=
  (text.take (max first second)).drop (min first second)

/-- Places with no break between them have the same breaks in front of them. -/
theorem lineBreaks_take_eq {text : List Char} {first second : Nat}
    (inside : ∀ c ∈ between text first second, isLineBreak c = false) :
    lineBreaks (text.take first) = lineBreaks (text.take second) := by
  have further : lineBreaks (text.take (max first second)) =
      lineBreaks (text.take (min first second)) := by
    have parts := List.take_append_drop (min first second) (text.take (max first second))
    rw [List.take_take, Nat.min_eq_left (Nat.le_trans (Nat.min_le_left _ _) (Nat.le_max_left _ _))]
      at parts
    rw [← parts]
    exact lineBreaks_append_inside _ inside
  rcases Nat.le_total first second with before | after
  · rwa [Nat.max_eq_right before, Nat.min_eq_left before, eq_comm] at further
  · rwa [Nat.max_eq_left after, Nat.min_eq_right after] at further

/-! ### Lines at their places -/

/-- The lines of a text that begins at `place`, with the places at which they begin. -/
def linesFrom : (place : Nat) → List Char → List (Nat × List Char)
  | _, [] => []
  | place, '\r' :: '\n' :: rest => (place, []) :: linesFrom (place + 2) rest
  | place, c :: rest =>
    if isLineBreak c then (place, []) :: linesFrom (place + 1) rest
    else match linesFrom (place + 1) rest with
      | [] => [(place, [c])]
      | (_, head) :: tail => (place, c :: head) :: tail

theorem map_snd_linesFrom (place : Nat) (text : List Char) :
    (linesFrom place text).map Prod.snd = lines text := by
  fun_induction linesFrom place text with
  | case1 => rfl
  | case2 place rest ih => rw [List.map_cons, ih, lines]
  | case3 place c rest notJoined breaks ih =>
    rw [List.map_cons, ih, lines.eq_3 c rest notJoined, if_pos breaks]
  | case4 place c rest notJoined inside none ih =>
    rw [lines_cons_of_inside (eq_false_of_ne_true inside), ← ih, none]
    rfl
  | case5 place c rest notJoined inside start head tail parts ih =>
    rw [lines_cons_of_inside (eq_false_of_ne_true inside), ← ih, parts]
    rfl

/-- The first line begins with the text. -/
theorem fst_of_linesFrom_eq_cons {place start : Nat} {text head : List Char}
    {tail : List (Nat × List Char)} (parts : linesFrom place text = (start, head) :: tail) :
    start = place := by
  have same : ∀ {line : List Char} {rest : List (Nat × List Char)},
      (place, line) :: rest = (start, head) :: tail → start = place := fun equal =>
    (Prod.mk.inj (List.cons.inj equal).1).1.symm
  unfold linesFrom at parts
  split at parts
  · cases parts
  · exact same parts
  · split at parts
    · exact same parts
    · split at parts <;> exact same parts

/-- **Where a line stands**: what stands in front of it reaches up to its place, and has as many
breaks as there are lines before it. -/
theorem split_of_mem_linesFrom {place first start number : Nat} {text line : List Char}
    (member : ((start, line), number) ∈ (linesFrom place text).zipIdx first) :
    ∃ above below, text = above ++ line ++ below ∧ start = place + above.length ∧
      number = first + lineBreaks above ∧ ∀ c ∈ line, isLineBreak c = false := by
  fun_induction linesFrom place text generalizing first start number line with
  | case1 => cases member
  | case2 place rest ih =>
    rw [List.zipIdx_cons, List.mem_cons] at member
    rcases member with same | later
    · cases same
      exact ⟨[], '\r' :: '\n' :: rest, rfl, rfl, rfl, List.forall_mem_nil _⟩
    · obtain ⟨above, below, rfl, isPlace, isNumber, inLine⟩ := ih later
      refine ⟨'\r' :: '\n' :: above, below, rfl, ?_, ?_, inLine⟩
      · rw [isPlace, List.length_cons, List.length_cons]
        omega
      · rw [isNumber, lineBreaks_returnNewLine]
        omega
  | case3 place c rest notJoined breaks ih =>
    rw [List.zipIdx_cons, List.mem_cons] at member
    rcases member with same | later
    · cases same
      exact ⟨[], c :: rest, rfl, rfl, rfl, List.forall_mem_nil _⟩
    · obtain ⟨above, below, rfl, isPlace, isNumber, inLine⟩ := ih later
      have apart : c = '\r' → above.head? ≠ some '\n' := by
        intro isReturn follows
        obtain ⟨tail, rfl⟩ := List.head?_eq_some_iff.mp follows
        exact notJoined _ isReturn rfl
      refine ⟨c :: above, below, rfl, ?_, ?_, inLine⟩
      · rw [isPlace, List.length_cons]
        omega
      · rw [isNumber, lineBreaks_cons_of_break breaks apart]
        omega
  | case4 place c rest notJoined inside none ih =>
    rw [List.zipIdx_singleton, List.mem_singleton] at member
    cases member
    refine ⟨[], rest, rfl, rfl, rfl, ?_⟩
    simpa using inside
  | case5 place c rest notJoined inside start' head tail parts ih =>
    have isInside : isLineBreak c = false := eq_false_of_ne_true inside
    rw [parts] at ih
    rw [List.zipIdx_cons, List.mem_cons] at member
    rcases member with same | later
    · -- The character stands at the head of the first line.
      obtain ⟨⟨rfl, rfl⟩, rfl⟩ : (start = place ∧ line = c :: head) ∧ number = first := by
        simpa using same
      have isFirst : ((start', head), number) ∈ ((start', head) :: tail).zipIdx number := by
        rw [List.zipIdx_cons]
        exact List.mem_cons_self
      obtain ⟨above, below, rfl, isPlace, isNumber, inLine⟩ := ih isFirst
      have atStart := fst_of_linesFrom_eq_cons parts
      have nothing : above = [] := List.length_eq_zero_iff.mp (by omega)
      subst nothing
      exact ⟨[], below, rfl, rfl, rfl, List.forall_mem_cons.mpr ⟨isInside, inLine⟩⟩
    · obtain ⟨above, below, rfl, isPlace, isNumber, inLine⟩ :=
        ih (by rw [List.zipIdx_cons]; exact List.mem_cons_of_mem _ later)
      refine ⟨c :: above, below, rfl, ?_, ?_, inLine⟩
      · rw [isPlace, List.length_cons]
        omega
      · rw [isNumber, lineBreaks_cons_of_inside isInside]

end CodeBrief.Text
