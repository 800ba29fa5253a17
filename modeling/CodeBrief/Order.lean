/-
**Sorting.**

A list is sorted by inserting its elements one by one, from the last to the first, each in front of
the first element that does not have to stand before it. Elements of the same rank keep their order.

* `sortBy` — a list sorted by a relation.
* `sortBy_perm` — sorting keeps the elements.
* `lexLe` — the order of lists by their first difference.
-/

namespace CodeBrief

/-- `x` inserted in front of the first element that may follow it. -/
def insertBy {α : Type} (before : α → α → Bool) (x : α) : List α → List α
  | [] => [x]
  | y :: rest => if before x y then x :: y :: rest else y :: insertBy before x rest

/-- `xs` sorted so that `before` holds from each element to the later ones; elements between which
it holds both ways keep their order. -/
def sortBy {α : Type} (before : α → α → Bool) : List α → List α
  | [] => []
  | x :: rest => insertBy before x (sortBy before rest)

/-- Inserting adds one element. -/
theorem insertBy_perm {α : Type} (before : α → α → Bool) (x : α) (xs : List α) :
    (insertBy before x xs).Perm (x :: xs) := by
  induction xs with
  | nil => exact .refl _
  | cons y rest ih =>
    unfold insertBy
    split
    · exact .refl _
    · exact (ih.cons y).trans (.swap x y rest)

/-- Sorting keeps the elements. -/
theorem sortBy_perm {α : Type} (before : α → α → Bool) (xs : List α) :
    (sortBy before xs).Perm xs := by
  induction xs with
  | nil => exact .refl _
  | cons x rest ih => exact (insertBy_perm before x _).trans (ih.cons x)

/-- Whether the first text stands at or before the second in the order of code points. -/
def textLe (left right : String) : Bool :=
  !decide (right < left)

/-- Whether the first list stands at or before the second: by their first different elements, and a
list before its extensions. -/
def lexLe {α : Type} [DecidableEq α] (le : α → α → Bool) : List α → List α → Bool
  | [], _ => true
  | _ :: _, [] => false
  | x :: xs, y :: ys => if x = y then lexLe le xs ys else le x y

end CodeBrief
