/-
**Decimal spellings.**

* `spell_eq` — a positive number is spelt by its decimal digits, the first one first;
  `ofList_spell` — this is how numbers are spelt everywhere.
* `takeNatural_spell` — the number that its spelling spells, also with zeros in front and with digits
  before it.
* `spell_eq_cons` — no zero is needless.
* `pow_le_of_length_spell`, `lt_pow_length_spell` — the number of digits of a number tells its size.
* `length_spell_le` — a bound on the number of digits that is linear in the number.
-/

import CodeBrief.Text.Digit
import Mathlib.Data.Nat.Digits.Lemmas

namespace CodeBrief.Text

theorem digitsBackwards_eq {fuel n : Nat} (positive : 0 < n) (enough : n < 10 ^ fuel) :
    digitsBackwards fuel n = (Nat.digits 10 n).map fun digit => Char.ofNat (48 + digit) := by
  induction fuel generalizing n with
  | zero =>
    rw [Nat.pow_zero] at enough
    omega
  | succ fuel ih =>
    rw [Nat.digits_def' (by decide) positive, List.map_cons]
    unfold digitsBackwards
    split
    · rename_i last
      rw [Nat.div_eq_of_lt last, Nat.digits_zero]
      rfl
    · rename_i more
      rw [ih (by omega) (by rw [Nat.pow_succ] at enough; omega)]

/-- **A positive number is spelt by its decimal digits.** -/
theorem spell_eq {n : Nat} (positive : 0 < n) :
    spell n = ((Nat.digits 10 n).map fun digit => Char.ofNat (48 + digit)).reverse := by
  have enough : n < 10 ^ (n.log2 + 1) :=
    Nat.lt_of_lt_of_le Nat.lt_log2_self (Nat.pow_le_pow_left (by decide) _)
  unfold spell
  rw [digitsBackwards_eq positive enough]

theorem length_spell {n : Nat} (positive : 0 < n) :
    (spell n).length = (Nat.digits 10 n).length := by
  rw [spell_eq positive, List.length_reverse, List.length_map]

/-! ### Digit by digit -/

theorem spell_of_lt {n : Nat} (small : n < 10) : spell n = [Char.ofNat (48 + n)] := by
  interval_cases n <;> rfl

theorem spell_of_ge {n : Nat} (large : 10 ≤ n) :
    spell n = spell (n / 10) ++ [Char.ofNat (48 + n % 10)] := by
  rw [spell_eq (by omega), spell_eq (by omega), Nat.digits_def' (by decide) (by omega),
    List.map_cons, List.reverse_cons]

/-- The digits are those of every decimal spelling. -/
theorem spell_eq_toDigits (n : Nat) : spell n = Nat.toDigits 10 n := by
  induction n using Nat.strong_induction_on with
  | _ n ih =>
    have digit : ∀ d < 10, Char.ofNat (48 + d) = Nat.digitChar d := by decide
    by_cases small : n < 10
    · rw [spell_of_lt small, Nat.toDigits_of_lt_base small, digit n small]
    · have large : 10 ≤ n := not_lt.mp small
      rw [spell_of_ge large, Nat.toDigits_of_base_le (by decide) large, ih (n / 10) (by omega),
        digit (n % 10) (Nat.mod_lt _ (by decide))]

theorem ofList_spell (n : Nat) : String.ofList (spell n) = toString n := by
  rw [spell_eq_toDigits, Nat.toString_eq_ofList_toDigits]

theorem spell_ne_nil (n : Nat) : spell n ≠ [] := by
  by_cases small : n < 10
  · simp [spell_of_lt small]
  · simp [spell_of_ge (not_lt.mp small)]

/-- A number has few digits: no more than it has tens, and one. -/
theorem length_spell_le (n : Nat) : (spell n).length ≤ n / 10 + 1 := by
  induction n using Nat.strong_induction_on with
  | _ n ih =>
    by_cases small : n < 10
    · rw [spell_of_lt small, List.length_singleton]
      exact Nat.le_add_left 1 _
    · have tens := ih (n / 10) (by omega)
      rw [spell_of_ge (not_lt.mp small), List.length_append, List.length_singleton]
      omega

theorem isDigit_iff {c : Char} : c.isDigit = true ↔ 48 ≤ c.toNat ∧ c.toNat ≤ 57 := by
  simp only [Char.isDigit, Bool.and_eq_true, decide_eq_true_eq, ge_iff_le, UInt32.le_iff_toNat_le]
  exact Iff.rfl

theorem toNat_digit {d : Nat} (small : d < 10) : (Char.ofNat (48 + d)).toNat = 48 + d := by
  interval_cases d <;> rfl

theorem isDigit_digit {d : Nat} (small : d < 10) : (Char.ofNat (48 + d)).isDigit = true := by
  rw [isDigit_iff, toNat_digit small]
  omega

theorem isDigit_of_mem_spell {n : Nat} {c : Char} (member : c ∈ spell n) : c.isDigit = true := by
  induction n using Nat.strong_induction_on with
  | _ n ih =>
    by_cases small : n < 10
    · rw [spell_of_lt small, List.mem_singleton] at member
      rw [member]
      exact isDigit_digit small
    · rw [spell_of_ge (not_lt.mp small), List.mem_append, List.mem_singleton] at member
      rcases member with before | rfl
      · exact ih (n / 10) (by omega) before
      · exact isDigit_digit (Nat.mod_lt _ (by decide))

/-- A number that is not zero is spelt without a zero in front. -/
theorem spell_eq_cons {n : Nat} (positive : 0 < n) : ∃ c rest, spell n = c :: rest ∧ c ≠ '0' := by
  induction n using Nat.strong_induction_on with
  | _ n ih =>
    by_cases small : n < 10
    · refine ⟨_, [], spell_of_lt small, fun zero => ?_⟩
      have code := congrArg Char.toNat zero
      rw [toNat_digit small] at code
      have : '0'.toNat = 48 := rfl
      omega
    · obtain ⟨c, rest, spelling, noZero⟩ := ih (n / 10) (by omega) (by omega)
      rw [spell_of_ge (not_lt.mp small), spelling]
      exact ⟨c, rest ++ _, rfl, noZero⟩

/-! ### Reading digits -/

theorem asciiDigit?_of_isDigit {c : Char} (digit : c.isDigit = true) :
    asciiDigit? c = some (c.toNat - 48) := by
  have code := isDigit_iff.mp digit
  exact if_pos code

theorem takeNatural_append {left : List Char} (digits : ∀ c ∈ left, c.isDigit = true) (value : Nat)
    (right : List Char) :
    takeNatural value (left ++ right) = takeNatural (takeNatural value left).1 right := by
  induction left generalizing value with
  | nil => rfl
  | cons c rest ih =>
    have digit := asciiDigit?_of_isDigit (digits c List.mem_cons_self)
    rw [List.cons_append, takeNatural, takeNatural, digit]
    exact ih (fun d member => digits d (List.mem_cons_of_mem c member)) _

/-- **A number is what its spelling spells.** -/
theorem takeNatural_spell (value n : Nat) :
    takeNatural value (spell n) = (value * 10 ^ (spell n).length + n, []) := by
  induction n using Nat.strong_induction_on generalizing value with
  | _ n ih =>
    by_cases small : n < 10
    · rw [spell_of_lt small, takeNatural, asciiDigit?_of_isDigit (isDigit_digit small),
        toNat_digit small]
      simp [takeNatural]
    · have last : n % 10 < 10 := Nat.mod_lt _ (by decide)
      rw [spell_of_ge (not_lt.mp small),
        takeNatural_append (fun c member => isDigit_of_mem_spell member), ih (n / 10) (by omega),
        takeNatural, asciiDigit?_of_isDigit (isDigit_digit last), toNat_digit last]
      simp only [takeNatural, Prod.mk.injEq, and_true, List.length_append, List.length_singleton,
        Nat.pow_succ]
      have parts := Nat.div_add_mod n 10
      rw [← mul_assoc]
      omega

theorem takeNatural_zeros (value count : Nat) (text : List Char) :
    takeNatural value (List.replicate count '0' ++ text) = takeNatural (value * 10 ^ count) text := by
  induction count generalizing value with
  | zero => simp
  | succ count ih =>
    rw [List.replicate_succ, List.cons_append, takeNatural, asciiDigit?_of_isDigit rfl]
    refine (ih _).trans ?_
    rw [show ('0'.toNat - 48 : Nat) = 0 from rfl, Nat.add_zero, Nat.mul_assoc, Nat.pow_succ']

/-! ### How many digits a number has -/

theorem lt_pow_length_spell (n : Nat) : n < 10 ^ (spell n).length := by
  rcases Nat.eq_zero_or_pos n with rfl | positive
  · decide
  · rw [length_spell positive]
    exact Nat.lt_base_pow_length_digits (by decide)

theorem pow_le_of_length_spell {n : Nat} (positive : 0 < n) : 10 ^ (spell n).length ≤ 10 * n := by
  rw [length_spell positive]
  exact Nat.base_pow_length_digits_le 10 n (by decide) positive.ne'

end CodeBrief.Text
