/-
**Reading back the parameters that have been written.**

* `IsParameter` — what can stand as a parameter between others and be told from them.
* `paramsOf_commaText` — parameters with a comma and a space between them are read back.
* `IsArrowFree` — a text in which no arrow stands; `isArrowFree_commaText` — parameters without
  arrows do not make one when they are written one after another.
-/

import CodeBrief.Proofs.Pattern.Reading
import CodeBrief.Proofs.Text.Pieces
import CodeBrief.Script.Function

namespace CodeBrief.Script

open Pattern

/-! ### Texts without arrows -/

/-- A text in which no arrow stands. -/
def IsArrowFree (text : List Char) : Prop :=
  ¬ "=>".toList <:+: text

instance (text : List Char) : Decidable (IsArrowFree text) :=
  inferInstanceAs (Decidable (¬ _))

section Arrows

variable {left right text : List Char} {c : Char}

theorem isArrowFree_nil : IsArrowFree [] := by decide

/-- An arrow begins with an equals sign. -/
theorem IsArrowFree.cons (free : IsArrowFree text) (other : c ≠ '=') : IsArrowFree (c :: text) := by
  intro arrow
  rcases List.infix_cons_iff.mp arrow with first | inside
  · exact other (List.cons_prefix_cons.mp first).1.symm
  · exact free inside

/-- An arrow ends with a greater-than sign. -/
theorem IsArrowFree.append_cons (free : IsArrowFree left) (other : c ≠ '>')
    (free' : IsArrowFree (c :: right)) : IsArrowFree (left ++ c :: right) := by
  induction left with
  | nil => exact free'
  | cons d left ih =>
    intro arrow
    rcases List.infix_cons_iff.mp arrow with first | inside
    · -- The arrow begins with the first character, and needs one more.
      obtain ⟨same, second⟩ := List.cons_prefix_cons.mp first
      cases left with
      | nil => exact other (List.cons_prefix_cons.mp second).1.symm
      | cons e left =>
        have next := (List.cons_prefix_cons.mp second).1
        refine free (List.IsPrefix.isInfix ⟨left, ?_⟩)
        rw [← same, ← next]
        rfl
    · exact ih (fun within => free (within.trans (List.suffix_cons d left).isInfix)) inside

theorem IsArrowFree.append_of_not_mem (free : IsArrowFree right) (absent : '=' ∉ left) :
    IsArrowFree (left ++ right) := by
  induction left with
  | nil => exact free
  | cons d left ih =>
    rw [List.mem_cons, not_or] at absent
    exact (ih absent.2).cons (Ne.symm absent.1)

end Arrows

/-! ### Parameters -/

/-- A text that can stand as a parameter: it is not empty, has no comma, no closing parenthesis and
no arrow in it, and no blanks at its ends. -/
structure IsParameter (param : String) : Prop where
  /-- There is something. -/
  nonempty : param.toList ≠ []
  /-- Nothing in it ends a parameter. -/
  noEnd : ',' ∉ param.toList ∧ ')' ∉ param.toList
  /-- No arrow stands in it. -/
  noArrow : IsArrowFree param.toList
  /-- It neither begins nor ends with a blank. -/
  trimmed : (∀ c ∈ param.toList.head?, Text.isBlank c = false) ∧
    ∀ c ∈ param.toList.getLast?, Text.isBlank c = false

instance : DecidablePred IsParameter := fun param =>
  decidable_of_iff (param.toList ≠ [] ∧ (',' ∉ param.toList ∧ ')' ∉ param.toList) ∧
    IsArrowFree param.toList ∧ param.toList.head?.all (!Text.isBlank ·) = true ∧
    param.toList.getLast?.all (!Text.isBlank ·) = true) <| by
  simp only [Option.all_eq_true, Bool.not_eq_true']
  exact ⟨fun ⟨nonempty, noEnd, noArrow, trimmed⟩ => ⟨nonempty, noEnd, noArrow, trimmed⟩,
    fun ⟨nonempty, noEnd, noArrow, trimmed⟩ => ⟨nonempty, noEnd, noArrow, trimmed⟩⟩

/-- Stripping a parameter changes nothing, and takes a space in front of it away. -/
theorem IsParameter.strip {param : String} (isParameter : IsParameter param) :
    Text.strip param.toList = param.toList ∧ Text.strip (' ' :: param.toList) = param.toList := by
  have front : param.toList.dropWhile Text.isBlank = param.toList :=
    dropWhile_of_endsRun isParameter.trimmed.1
  have noBlank : EndsRun Text.isBlank param.toList.reverse := by
    rw [EndsRun, List.head?_reverse]
    exact isParameter.trimmed.2
  have back : param.toList.reverse.dropWhile Text.isBlank = param.toList.reverse :=
    dropWhile_of_endsRun noBlank
  have space : (' ' :: param.toList).dropWhile Text.isBlank = param.toList := by
    rw [List.dropWhile_cons_of_pos (by decide), front]
  unfold Text.strip Text.trimRight
  rw [space, front, back, List.reverse_reverse]
  exact ⟨rfl, rfl⟩

section Params

variable {params : List String} (areParameters : ∀ param ∈ params, IsParameter param)
include areParameters

/-- **Parameters are read back as they were written.** -/
theorem paramsOf_commaText : paramsOf (Text.commaText params) = params := by
  cases params with
  | nil => rfl
  | cons first others =>
    have isFirst := areParameters first List.mem_cons_self
    have areOthers : ∀ other ∈ others, IsParameter other :=
      fun other member => areParameters other (List.mem_cons_of_mem first member)
    have free : ∀ part ∈ first.toList :: others.map (fun other => ' ' :: other.toList),
        ',' ∉ part := by
      intro part member
      rcases List.mem_cons.mp member with rfl | later
      · exact isFirst.noEnd.1
      · obtain ⟨other, isOther, rfl⟩ := List.mem_map.mp later
        simpa using (areOthers other isOther).noEnd.1
    have stripped : (first.toList :: others.map fun other => ' ' :: other.toList).map Text.strip =
        (first :: others).map String.toList := by
      rw [List.map_cons, List.map_map, isFirst.strip.1, List.map_cons, List.cons_inj_right]
      exact List.map_congr_left fun other isOther => (areOthers other isOther).strip.2
    have kept : ((first :: others).map String.toList).filter (fun param => !param.isEmpty) =
        (first :: others).map String.toList := by
      refine List.filter_eq_self.mpr fun param member => ?_
      obtain ⟨param, isParam, rfl⟩ := List.mem_map.mp member
      simpa using (areParameters param isParam).nonempty
    unfold paramsOf
    rw [Text.commaText_cons, Text.pieces_intercalate free (List.cons_ne_nil _ _), stripped, kept,
      List.map_map]
    exact (List.map_congr_left fun param _ => String.ofList_toList).trans (List.map_id _)

theorem not_mem_commaText_params : ')' ∉ Text.commaText params :=
  Text.not_mem_commaText (by decide) fun param member => (areParameters param member).noEnd.2

theorem isArrowFree_commaText : IsArrowFree (Text.commaText params) := by
  induction params with
  | nil => exact isArrowFree_nil
  | cons first others ih =>
    have isFirst := areParameters first List.mem_cons_self
    have later := ih fun param member => areParameters param (List.mem_cons_of_mem _ member)
    cases others with
    | nil =>
      rw [Text.commaText_singleton]
      exact isFirst.noArrow
    | cons second others =>
      rw [Text.commaText_cons_cons]
      exact isFirst.noArrow.append_cons (by decide) ((later.cons (by decide)).cons (by decide))

end Params

end CodeBrief.Script
