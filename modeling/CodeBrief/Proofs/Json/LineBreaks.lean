/-
**Written text has no carriage returns.**

Inside texts they are escaped, and between the parts of a value only line feeds break lines. So the
text of a value comes through a file as it is, where every line break is read as a line feed.

* `IsUnbroken` — a text without carriage returns; `unifyBreaks_of_isUnbroken` — it stays as it is.
* `isUnbroken_writeChar`, `isUnbroken_write` — characters within quotes, and numbers.
* `isUnbroken_writeAt` — the text of a readable value.
-/

import CodeBrief.Proofs.Json.RoundTrip
import CodeBrief.Proofs.Text.Utf8
import CodeBrief.Repository.Listing

namespace CodeBrief.Json

open Binary64 (Layout Digits)
open Text (spell hexadecimal)

/-- A text without carriage returns. -/
def IsUnbroken (text : List Char) : Prop :=
  ∀ c ∈ text, c ≠ '\r'

instance : DecidablePred IsUnbroken := fun text =>
  decidable_of_iff (text.all (· != '\r') = true) (by simp [IsUnbroken])

theorem unifyBreaks_of_isUnbroken {text : List Char} (unbroken : IsUnbroken text) :
    Text.unifyBreaks text = text := by
  induction text with
  | nil => rfl
  | cons c rest ih =>
    have different := unbroken c List.mem_cons_self
    have same := ih fun d member => unbroken d (List.mem_cons_of_mem c member)
    rw [Text.unifyBreaks, if_neg different, same]
    intro _ carriage
    exact absurd carriage different

/-- The bytes of such a text are read as the text. -/
theorem strictText_toUTF8 {text : String} (unbroken : IsUnbroken text.toList) :
    FileTree.strictText text.toUTF8.toList = .ok text := by
  rw [FileTree.strictText, Text.Utf8.decode_toUTF8]
  show Except.ok (String.ofList (Text.unifyBreaks text.toList)) = _
  rw [unifyBreaks_of_isUnbroken unbroken, String.ofList_toList]

namespace IsUnbroken

theorem append {left right : List Char} (isLeft : IsUnbroken left) (isRight : IsUnbroken right) :
    IsUnbroken (left ++ right) := by
  intro c member
  rcases List.mem_append.mp member with inLeft | inRight
  · exact isLeft c inLeft
  · exact isRight c inRight

theorem cons {c : Char} {rest : List Char} (first : c ≠ '\r') (isRest : IsUnbroken rest) :
    IsUnbroken (c :: rest) := by
  intro d member
  rcases List.mem_cons.mp member with rfl | later
  · exact first
  · exact isRest d later

theorem of_subset {text part : List Char} (unbroken : IsUnbroken text) (subset : part ⊆ text) :
    IsUnbroken part :=
  fun c member => unbroken c (subset member)

end IsUnbroken

/-! ### Numbers -/

theorem isUnbroken_of_areDigits {digits : List Char} (areDigits : AreDigits digits) :
    IsUnbroken digits := by
  rintro c member rfl
  exact absurd (areDigits _ member) (by decide)

theorem isUnbroken_spell (n : Nat) : IsUnbroken (spell n) :=
  isUnbroken_of_areDigits (areDigits_spell n)

theorem isUnbroken_zeros (count : Nat) : IsUnbroken (List.replicate count '0') :=
  isUnbroken_of_areDigits (areDigits_zeros count)

theorem isUnbroken_sign (negative : Bool) : IsUnbroken (if negative then ['-'] else []) := by
  cases negative <;> decide

theorem isUnbroken_spellInt (n : Int) : IsUnbroken (Text.spellInt n) := by
  have digits := isUnbroken_spell n.natAbs
  unfold Text.spellInt
  split
  · exact .cons (by decide) digits
  · exact digits

theorem isUnbroken_digitsText (layout : Layout) (digits : Digits) :
    IsUnbroken (digitsText layout digits) := by
  have all := isUnbroken_spell digits.value
  have before : ∀ count, IsUnbroken ((spell digits.value).take count) :=
    fun count => all.of_subset (List.take_subset count _)
  have after : ∀ count, IsUnbroken ((spell digits.value).drop count) :=
    fun count => all.of_subset (List.drop_subset count _)
  have point : '.' ≠ '\r' := by decide
  have mark : 'e' ≠ '\r' := by decide
  unfold digitsText
  dsimp only
  split
  · split
    · exact (all.append (isUnbroken_zeros _)).append (by decide)
    · split
      · exact (before _).append (.cons point (after _))
      · exact .cons (by decide) (.cons point ((isUnbroken_zeros _).append all))
  · refine ((before 1).append ?_).append (.cons mark (.cons ?_ ?_))
    · split
      · decide
      · exact .cons point (after 1)
    · split <;> decide
    · exact (isUnbroken_zeros _).append (isUnbroken_spell _)

theorem isUnbroken_write (layout : Layout) {number : Binary64} (finite : number.IsFinite) :
    IsUnbroken (layout.write number) := by
  cases number with
  | nan => cases finite
  | infinite negative => cases finite
  | finite negative mantissa place =>
    rcases Nat.eq_zero_or_pos mantissa with rfl | positive
    · exact (isUnbroken_sign negative).append (show IsUnbroken ['0', '.', '0'] by decide)
    · rw [write_finite layout negative positive]
      exact (isUnbroken_sign negative).append (isUnbroken_digitsText layout _)

/-! ### Texts -/

theorem isUnbroken_hexadecimal (width n : Nat) : IsUnbroken (hexadecimal width n) := by
  have digit : ∀ d < 16, Text.hexDigit d ≠ '\r' := by decide
  induction width generalizing n with
  | zero => exact nofun
  | succ width ih =>
    have last := digit (n % 16) (Nat.mod_lt n (by decide))
    exact (ih (n / 16)).append (.cons last nofun)

theorem isUnbroken_unitEscape (unit : Nat) : IsUnbroken (unitEscape unit) :=
  .cons (by decide) (.cons (by decide) (isUnbroken_hexadecimal 4 unit))

/-- No character within quotes is written as a carriage return, not even that itself. -/
theorem isUnbroken_writeChar (style : Style) (c : Char) : IsUnbroken (style.writeChar c) := by
  unfold Style.writeChar
  dsimp only
  iterate 7
    split
    · decide
  rename_i notCarriage
  split
  · exact isUnbroken_unitEscape _
  split
  · split
    · exact isUnbroken_unitEscape _
    · exact (isUnbroken_unitEscape _).append (isUnbroken_unitEscape _)
  · rintro d member rfl
    rw [List.mem_singleton] at member
    subst member
    exact notCarriage rfl

theorem isUnbroken_writeText (style : Style) (text : String) : IsUnbroken (style.writeText text) := by
  refine .append (.cons (by decide) ?_) (by decide)
  intro c member
  obtain ⟨d, -, within⟩ := List.mem_flatMap.mp member
  exact isUnbroken_writeChar style d c within

/-! ### Values -/

section Values

variable (style : Style)

theorem isUnbroken_newLine (depth : Nat) : IsUnbroken (style.newLine depth) := by
  unfold Style.newLine
  split
  · decide
  · refine .cons (by decide) fun c blank => ?_
    rw [List.eq_of_mem_replicate blank]
    decide

theorem isUnbroken_colon : IsUnbroken style.colon := by
  unfold Style.colon
  split <;> decide

theorem isUnbroken_writeItems {items : List Value}
    (each : ∀ item ∈ items, ∀ depth, IsUnbroken (writeAt style depth item)) (depth : Nat) :
    IsUnbroken (writeItems style depth items) := by
  induction items with
  | nil => exact nofun
  | cons item rest ih =>
    have first := each item List.mem_cons_self depth
    have others := ih fun value member => each value (List.mem_cons_of_mem item member)
    rw [writeItems]
    exact ((IsUnbroken.cons (by decide) (isUnbroken_newLine style depth)).append first).append others

/-- A member, in front of others. -/
theorem isUnbroken_member {value text : List Char} (name : String) (depth : Nat)
    (isValue : IsUnbroken value) (isText : IsUnbroken text) {c : Char} (first : c ≠ '\r') :
    IsUnbroken (c :: style.newLine depth ++ style.writeText name ++ style.colon ++ value ++ text) :=
  ((((IsUnbroken.cons first (isUnbroken_newLine style depth)).append
    (isUnbroken_writeText style name)).append (isUnbroken_colon style)).append isValue).append isText

theorem isUnbroken_writeMembers {members : List (String × Value)}
    (each : ∀ member ∈ members, ∀ depth, IsUnbroken (writeAt style depth member.2)) (depth : Nat) :
    IsUnbroken (writeMembers style depth members) := by
  induction members with
  | nil => exact nofun
  | cons member rest ih =>
    have first := each member List.mem_cons_self depth
    have others := ih fun value inside => each value (List.mem_cons_of_mem member inside)
    rw [writeMembers]
    exact isUnbroken_member style member.1 depth first others (by decide)

/-- **The text of a readable value has no carriage returns.** -/
theorem isUnbroken_writeAt {value : Value} (readable : IsReadable value) (depth : Nat) :
    IsUnbroken (writeAt style depth value) := by
  induction readable generalizing depth with
  | null => exact (by decide : IsUnbroken ['n', 'u', 'l', 'l'])
  | bool truth =>
    have words : ∀ truth : Bool, IsUnbroken (if truth then "true" else "false").toList := by decide
    exact words truth
  | int short => exact isUnbroken_spellInt _
  | float finite => exact isUnbroken_write style.numbers finite
  | string text => exact isUnbroken_writeText style text
  | @array items _ ih =>
    cases items with
    | nil => exact (by decide : IsUnbroken ['[', ']'])
    | cons item rest =>
      have first := ih item List.mem_cons_self (depth + 1)
      have others := isUnbroken_writeItems style
        (fun value member => ih value (List.mem_cons_of_mem item member)) (depth + 1)
      rw [writeAt]
      exact ((((IsUnbroken.cons (by decide) (isUnbroken_newLine style (depth + 1))).append
        first).append others).append (isUnbroken_newLine style depth)).append (by decide)
  | @object members _ _ ih =>
    cases members with
    | nil => exact (by decide : IsUnbroken ['{', '}'])
    | cons member rest =>
      have first := ih member List.mem_cons_self (depth + 1)
      have others := isUnbroken_writeMembers style
        (fun value inside => ih value (List.mem_cons_of_mem member inside)) (depth + 1)
      rw [writeAt]
      exact ((isUnbroken_member style member.1 (depth + 1) first others (by decide)).append
        (isUnbroken_newLine style depth)).append (by decide)

end Values

end CodeBrief.Json
