/-
**The length of compact JSON text.**

In the compact style a value is written the same way at every depth, so that its length is a
function of the value alone.

* `writeAt_compact` — the depth has no say.
* `textSize_eq` — a text takes the characters of its spelling and two quotes.
* `size_array`, `size_object` — lists and objects take their items, one character between
  neighbours, and two brackets. Both are given as a maximum, which also fits the empty ones: every
  item is charged the character after it, and one more bracket.
-/

import CodeBrief.Proofs.Text.Spelling
import CodeBrief.Token
import Mathlib.Algebra.Order.BigOperators.Group.List
import Mathlib.Algebra.Order.Group.Nat
import Mathlib.Algebra.Ring.Nat

namespace CodeBrief.Json

/-! ### The depth has no say -/

@[simp] theorem newLine_compact (depth : Nat) : Style.compact.newLine depth = [] := rfl

@[simp] theorem colon_compact : Style.compact.colon = [':'] := rfl

mutual

/-- A value is written the same way at every depth. -/
theorem writeAt_compact (depth : Nat) :
    ∀ value : Value, writeAt .compact depth value = writeAt .compact 0 value
  | .null | .bool _ | .int _ | .float _ | .string _ | .array [] | .object [] => by
    simp only [writeAt]
  | .array (item :: rest) => by
    simp only [writeAt, newLine_compact]
    rw [writeAt_compact (depth + 1) item, writeAt_compact (0 + 1) item,
      writeItems_compact (depth + 1) rest, writeItems_compact (0 + 1) rest]
  | .object ((name, value) :: rest) => by
    simp only [writeAt, newLine_compact]
    rw [writeAt_compact (depth + 1) value, writeAt_compact (0 + 1) value,
      writeMembers_compact (depth + 1) rest, writeMembers_compact (0 + 1) rest]

theorem writeItems_compact (depth : Nat) :
    ∀ items : List Value, writeItems .compact depth items = writeItems .compact 0 items
  | [] => rfl
  | item :: rest => by
    simp only [writeItems, newLine_compact]
    rw [writeAt_compact depth item, writeItems_compact depth rest]

theorem writeMembers_compact (depth : Nat) :
    ∀ members : List (String × Value),
      writeMembers .compact depth members = writeMembers .compact 0 members
  | [] => rfl
  | (name, value) :: rest => by
    simp only [writeMembers, newLine_compact]
    rw [writeAt_compact depth value, writeMembers_compact depth rest]

end

/-! ### Characters and texts -/

/-- The number of characters that spell `c` in a compact text. -/
def charSize (c : Char) : Nat :=
  (Style.compact.writeChar c).length

/-- The number of characters that write a text, the quotes included. -/
def textSize (text : String) : Nat :=
  (Style.compact.writeText text).length

theorem charSize_pos (c : Char) : 1 ≤ charSize c := by
  unfold charSize Style.writeChar
  dsimp only
  split_ifs <;> exact Nat.succ_pos _

/-- A text takes the characters of its spelling and two quotes. -/
theorem textSize_eq (text : String) : textSize text = (text.toList.map charSize).sum + 2 := by
  unfold textSize Style.writeText
  rw [List.length_append, List.length_cons, List.length_flatMap]
  rfl

/-- Digits are spelt by themselves. -/
theorem charSize_of_isDigit {c : Char} (digit : c.isDigit = true) : charSize c = 1 := by
  obtain ⟨least, greatest⟩ := Text.isDigit_iff.mp digit
  have notQuote : c ≠ '"' := by
    rintro rfl
    exact absurd digit (by decide)
  have notEscape : c ≠ '\\' := by
    rintro rfl
    exact absurd digit (by decide)
  unfold charSize Style.writeChar
  dsimp only
  rw [if_neg notQuote, if_neg notEscape, if_neg (by omega), if_neg (by omega), if_neg (by omega),
    if_neg (by omega), if_neg (by omega), if_neg (by omega), if_neg (by omega)]
  rfl

/-- Texts one after the other share their quotes. -/
theorem textSize_append (left right : String) :
    textSize (left ++ right) + 2 = textSize left + textSize right := by
  rw [textSize_eq, textSize_eq, textSize_eq, String.toList_append, List.map_append,
    List.sum_append]
  omega

/-! ### Values -/

/-- The number of characters that write a value in the compact style. -/
def ValueOf.size (value : Value) : Nat :=
  (Style.compact.chars value).length

@[simp] theorem size_null : ValueOf.null.size = 4 := rfl

@[simp] theorem size_bool (value : Bool) : (ValueOf.bool value).size = if value then 4 else 5 := by
  cases value <;> rfl

@[simp] theorem size_string (text : String) : (ValueOf.string text).size = textSize text := by
  unfold ValueOf.size Style.chars textSize
  rw [writeAt]

theorem size_int (value : Int) : (ValueOf.int value).size = (Text.spellInt value).length := by
  unfold ValueOf.size Style.chars
  rw [writeAt]

theorem length_writeItems (items : List Value) :
    (writeItems .compact 0 items).length = (items.map fun item => item.size + 1).sum := by
  induction items with
  | nil => rfl
  | cons item rest ih =>
    rw [writeItems, newLine_compact, List.map_cons, List.sum_cons, ← ih]
    simp only [List.length_append, List.length_cons, List.length_nil, ValueOf.size, Style.chars]
    omega

theorem length_writeMembers (members : List (String × Value)) :
    (writeMembers .compact 0 members).length =
      (members.map fun member => textSize member.1 + member.2.size + 2).sum := by
  induction members with
  | nil => rfl
  | cons member rest ih =>
    obtain ⟨name, value⟩ := member
    rw [writeMembers, newLine_compact, colon_compact, List.map_cons, List.sum_cons, ← ih]
    simp only [List.length_append, List.length_cons, List.length_nil, ValueOf.size, Style.chars,
      textSize]
    omega

/-- **The length of a list.** -/
theorem size_array (items : List Value) :
    (ValueOf.array items).size = max 2 ((items.map fun item => item.size + 1).sum + 1) := by
  cases items with
  | nil => rfl
  | cons item rest =>
    have written : (ValueOf.array (item :: rest)).size =
        item.size + (writeItems .compact 0 rest).length + 2 := by
      unfold ValueOf.size Style.chars
      rw [writeAt, writeAt_compact, writeItems_compact, newLine_compact, newLine_compact]
      simp only [List.length_append, List.length_cons, List.length_nil]
      omega
    rw [written, length_writeItems, List.map_cons, List.sum_cons]
    omega

/-- **The length of an object.** -/
theorem size_object (members : List (String × Value)) :
    (ValueOf.object members).size =
      max 2 ((members.map fun member => textSize member.1 + member.2.size + 2).sum + 1) := by
  cases members with
  | nil => rfl
  | cons member rest =>
    obtain ⟨name, value⟩ := member
    have written : (ValueOf.object ((name, value) :: rest)).size =
        textSize name + value.size + (writeMembers .compact 0 rest).length + 3 := by
      unfold ValueOf.size Style.chars
      rw [writeAt, writeAt_compact, writeMembers_compact, newLine_compact, newLine_compact,
        colon_compact]
      simp only [List.length_append, List.length_cons, List.length_nil, textSize]
      omega
    rw [written, length_writeMembers, List.map_cons, List.sum_cons]
    dsimp only
    omega

/-- Fewer members. -/
theorem size_object_le_of_sublist {fewer members : List (String × Value)}
    (sublist : fewer.Sublist members) :
    (ValueOf.object fewer).size ≤ (ValueOf.object members).size := by
  have sums := (sublist.map fun member => textSize member.1 + member.2.size + 2).sum_le_sum
    fun _ _ => Nat.zero_le _
  rw [size_object, size_object]
  omega

end CodeBrief.Json
