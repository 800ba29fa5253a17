/-
**Rounding to a floating-point number, and when it overflows.**

Fractions are compared as rationals. `roundFraction` finds the place of the last binary digit that
is kept, divides the fraction by that place and rounds to a whole mantissa.

* `scaled_value`, `leadingExponent_spec`, `divideToEven_le_iff` — the three parts of it: shifting a
  fraction, the power of two at or below it, and rounding to a whole number, a tie to the even one.
* `overflowBound` — the least number that rounds to an infinity: half a last place above the largest
  finite number.
* `roundFraction_finite_iff` — a fraction rounds to a finite number just if it is below that bound.
* `value_roundFraction_le_one` — a fraction of at most one rounds to a number of at most one.
* `value_roundFraction_lt` — what a finite number that comes of rounding is at most.
-/

import CodeBrief.Binary64.Basic
import Mathlib.Algebra.Order.Field.Power
import Mathlib.Tactic.FieldSimp
import Mathlib.Tactic.Linarith
import Mathlib.Tactic.NormNum
import Mathlib.Tactic.Positivity
import Mathlib.Tactic.Ring

namespace CodeBrief.Binary64

variable {num den : Nat}

/-! ### The parts of rounding -/

theorem scaled_snd_pos (num : Nat) (positive : 0 < den) (shift : Int) :
    0 < (scaled num den shift).2 := by
  show 0 < den <<< (-shift).toNat
  rw [Nat.shiftLeft_eq]
  positivity

/-- Shifting a fraction multiplies it by a power of two. -/
theorem scaled_value (num den : Nat) (shift : Int) :
    ((scaled num den shift).1 : ℚ) / (scaled num den shift).2 = num / den * 2 ^ shift := by
  unfold scaled
  rw [Nat.shiftLeft_eq, Nat.shiftLeft_eq]
  push_cast
  obtain ⟨count, rfl | rfl⟩ := shift.eq_nat_or_neg
  · simp only [Int.toNat_natCast, Int.toNat_neg_natCast, pow_zero, mul_one, zpow_natCast]
    ring
  · simp only [neg_neg, Int.toNat_natCast, Int.toNat_neg_natCast, pow_zero, mul_one, zpow_neg,
      zpow_natCast]
    field_simp

/-- The leading exponent tells between which powers of two a fraction lies. -/
theorem leadingExponent_spec (numPos : 0 < num) (denPos : 0 < den) :
    (2 : ℚ) ^ leadingExponent num den ≤ num / den ∧
      (num / den : ℚ) < 2 ^ (leadingExponent num den + 1) := by
  have denPosQ : (0 : ℚ) < den := by exact_mod_cast denPos
  have two : (2 : ℚ) ≠ 0 := two_ne_zero
  have numLow : (2 : ℚ) ^ (num.log2 : Int) ≤ num := by
    rw [zpow_natCast]
    exact_mod_cast Nat.log2_self_le numPos.ne'
  have numHigh : (num : ℚ) < 2 ^ ((num.log2 : Int) + 1) := by
    rw [show (num.log2 : Int) + 1 = ((num.log2 + 1 : Nat) : Int) by push_cast; rfl, zpow_natCast]
    exact_mod_cast Nat.lt_log2_self (n := num)
  have denLow : (2 : ℚ) ^ (den.log2 : Int) ≤ den := by
    rw [zpow_natCast]
    exact_mod_cast Nat.log2_self_le denPos.ne'
  have denHigh : (den : ℚ) < 2 ^ ((den.log2 : Int) + 1) := by
    rw [show (den.log2 : Int) + 1 = ((den.log2 + 1 : Nat) : Int) by push_cast; rfl, zpow_natCast]
    exact_mod_cast Nat.lt_log2_self (n := den)
  -- The guess is right or one too large.
  have above : (num / den : ℚ) < 2 ^ ((num.log2 : Int) - den.log2 + 1) := by
    rw [div_lt_iff₀ denPosQ]
    calc (num : ℚ) < 2 ^ ((num.log2 : Int) + 1) := numHigh
      _ = 2 ^ ((num.log2 : Int) - den.log2 + 1) * 2 ^ (den.log2 : Int) := by
        rw [← zpow_add₀ two]
        congr 1
        ring
      _ ≤ 2 ^ ((num.log2 : Int) - den.log2 + 1) * den := by gcongr
  have below : (2 : ℚ) ^ ((num.log2 : Int) - den.log2 - 1) ≤ num / den := by
    rw [le_div_iff₀ denPosQ]
    calc (2 : ℚ) ^ ((num.log2 : Int) - den.log2 - 1) * den
        ≤ 2 ^ ((num.log2 : Int) - den.log2 - 1) * 2 ^ ((den.log2 : Int) + 1) := by gcongr
      _ = 2 ^ (num.log2 : Int) := by
        rw [← zpow_add₀ two]
        congr 1
        ring
      _ ≤ num := numLow
  -- The guess is tried by comparing the fraction with it.
  have tried : (scaled num den (-((num.log2 : Int) - den.log2))).2 ≤
      (scaled num den (-((num.log2 : Int) - den.log2))).1 ↔
        (2 : ℚ) ^ ((num.log2 : Int) - den.log2) ≤ num / den := by
    have value := scaled_value num den (-((num.log2 : Int) - den.log2))
    have rightPos : (0 : ℚ) < (scaled num den (-((num.log2 : Int) - den.log2))).2 := by
      exact_mod_cast scaled_snd_pos num denPos _
    rw [← Nat.cast_le (α := ℚ), ← one_le_div rightPos, value, zpow_neg, ← div_eq_mul_inv,
      one_le_div (by positivity)]
  unfold leadingExponent
  dsimp only
  split
  · rename_i fits
    exact ⟨tried.mp fits, above⟩
  · rename_i short
    refine ⟨below, ?_⟩
    rw [sub_add_cancel]
    exact not_le.mp fun le => short (tried.mpr le)

/-- A quotient rounds to at most `bound` just if it lies below the middle between that and the next
whole number, or in the middle if `bound` is even. -/
theorem divideToEven_le_iff (denPos : 0 < den) {bound : Nat} :
    divideToEven num den ≤ bound ↔
      2 * num < (2 * bound + 1) * den ∨ (2 * num = (2 * bound + 1) * den ∧ bound % 2 = 0) := by
  have split := Nat.div_add_mod num den
  have small := Nat.mod_lt num denPos
  unfold divideToEven
  dsimp only
  generalize num / den = quotient at *
  generalize num % den = rest at *
  subst split
  have doubled : 2 * (den * quotient + rest) = 2 * quotient * den + 2 * rest := by ring
  rw [doubled, add_mul, one_mul]
  rcases Nat.lt_trichotomy quotient bound with less | rfl | more
  · have room : 2 * quotient * den + 2 * den ≤ 2 * bound * den := by
      calc 2 * quotient * den + 2 * den = 2 * (quotient + 1) * den := by ring
        _ ≤ 2 * bound * den := by gcongr; exact less
    constructor
    · intro _
      omega
    · intro _
      split <;> omega
  · split <;> omega
  · have room : 2 * bound * den + 2 * den ≤ 2 * quotient * den := by
      calc 2 * bound * den + 2 * den = 2 * (bound + 1) * den := by ring
        _ ≤ 2 * quotient * den := by gcongr; exact more
    constructor
    · intro le
      split at le <;> omega
    · intro _
      omega

/-! ### Rounding a fraction -/

/-- The place of the last binary digit that is kept of a fraction. -/
def lastPlace (num den : Nat) : Int :=
  max (leadingExponent num den - 52) (-1074)

/-- A fraction in units of its last place, as a whole number. -/
def mantissaOf (num den : Nat) : Nat :=
  divideToEven (scaled num den (-lastPlace num den)).1 (scaled num den (-lastPlace num den)).2

/-- A fraction that is not zero, rounded: its mantissa at its last place, or half of it at the next
place if it has been rounded up to one more digit. -/
theorem roundFraction_eq (negative : Bool) (numPos : 0 < num) :
    roundFraction negative num den =
      if mantissaOf num den = 2 ^ 53 then
        if 971 < lastPlace num den + 1 then .infinite negative
        else .finite negative (2 ^ 52) (lastPlace num den + 1)
      else if 971 < lastPlace num den then .infinite negative
      else .finite negative (mantissaOf num den) (lastPlace num den) := by
  have opened : roundFraction negative num den =
      let rounded :=
        if mantissaOf num den = 1 <<< 53 then (1 <<< 52, lastPlace num den + 1)
        else (mantissaOf num den, lastPlace num den)
      if 971 < rounded.2 then .infinite negative
      else .finite negative rounded.1 rounded.2 := by
    unfold roundFraction
    rw [if_neg numPos.ne']
    rfl
  rw [opened, show (1 <<< 53 : Nat) = 2 ^ 53 from rfl, show (1 <<< 52 : Nat) = 2 ^ 52 from rfl]
  by_cases carried : mantissaOf num den = 2 ^ 53
  · rw [if_pos carried, if_pos carried]
  · rw [if_neg carried, if_neg carried]

/-- A mantissa is at most `bound` just if the fraction is below the middle between that and the next
one, or in the middle if `bound` is even. -/
theorem mantissaOf_le_iff (denPos : 0 < den) (bound : Nat) :
    mantissaOf num den ≤ bound ↔
      (num / den : ℚ) < (bound + 1 / 2) * 2 ^ lastPlace num den ∨
        ((num / den : ℚ) = (bound + 1 / 2) * 2 ^ lastPlace num den ∧ bound % 2 = 0) := by
  have rightPos := scaled_snd_pos num denPos (-lastPlace num den)
  have value := scaled_value num den (-lastPlace num den)
  unfold mantissaOf
  rw [divideToEven_le_iff rightPos]
  generalize (scaled num den (-lastPlace num den)).1 = left at *
  generalize (scaled num den (-lastPlace num den)).2 = right at *
  have rightPosQ : (0 : ℚ) < right := by exact_mod_cast rightPos
  have placePos : (0 : ℚ) < 2 ^ lastPlace num den := by positivity
  have shifted : (num / den : ℚ) = left / right * 2 ^ lastPlace num den := by
    rw [value, mul_assoc, ← zpow_add₀ two_ne_zero, neg_add_cancel, zpow_zero, mul_one]
  rw [shifted, mul_lt_mul_iff_left₀ placePos, mul_left_inj' placePos.ne', div_lt_iff₀ rightPosQ,
    div_eq_iff rightPosQ.ne']
  have below : 2 * left < (2 * bound + 1) * right ↔
      (left : ℚ) < (bound + 1 / 2) * right := by
    rw [← Nat.cast_lt (α := ℚ)]
    push_cast
    constructor <;> intro lt <;> linarith
  have middle : 2 * left = (2 * bound + 1) * right ↔
      (left : ℚ) = (bound + 1 / 2) * right := by
    rw [← Nat.cast_inj (R := ℚ)]
    push_cast
    constructor <;> intro eq <;> linarith
  rw [below, middle]

/-- A mantissa has at most one digit too many. -/
theorem mantissaOf_le (numPos : 0 < num) (denPos : 0 < den) : mantissaOf num den ≤ 2 ^ 53 := by
  rw [mantissaOf_le_iff denPos _]
  left
  have placed : leadingExponent num den + 1 ≤ 53 + lastPlace num den := by
    unfold lastPlace
    omega
  calc (num / den : ℚ) < 2 ^ (leadingExponent num den + 1) := (leadingExponent_spec numPos denPos).2
    _ ≤ 2 ^ (53 + lastPlace num den) := zpow_le_zpow_right₀ one_le_two placed
    _ = 2 ^ 53 * 2 ^ lastPlace num den := zpow_add₀ two_ne_zero _ _
    _ ≤ ((2 ^ 53 : Nat) + 1 / 2) * 2 ^ lastPlace num den := by
      gcongr
      push_cast
      norm_num

/-! ### Overflow -/

/-- The least number that is rounded to an infinity: half a last place above the largest finite
number. -/
@[irreducible] def overflowBound : Nat :=
  (2 ^ 54 - 1) * 2 ^ 970

theorem cast_overflowBound : (overflowBound : ℚ) = (2 ^ 53 - 1 / 2) * 2 ^ (971 : Int) := by
  have half : (2 : ℚ) ^ (971 : Int) = 2 ^ 970 * 2 := by
    rw [show (971 : Int) = ((970 : Nat) : Int) + 1 from rfl, zpow_add₀ two_ne_zero, zpow_one,
      zpow_natCast]
  unfold overflowBound
  rw [half, Nat.cast_mul, Nat.cast_pow, Nat.cast_ofNat]
  generalize (2 : ℚ) ^ 970 = unit
  norm_num
  ring

theorem one_lt_overflowBound : (1 : ℚ) < overflowBound := by
  have unit : (1 : ℚ) ≤ 2 ^ (971 : Int) := one_le_zpow₀ one_le_two (by decide)
  rw [cast_overflowBound]
  calc (1 : ℚ) ≤ 2 ^ (971 : Int) := unit
    _ = 1 * 2 ^ (971 : Int) := (one_mul _).symm
    _ < (2 ^ 53 - 1 / 2) * 2 ^ (971 : Int) := by
      gcongr
      norm_num

/-- A fraction is below the bound if its last place is below that of the largest number, and not
below it if its last place is above that; at that place it is below the bound just if its mantissa
is not rounded up to one more digit. -/
theorem lt_overflowBound_iff (numPos : 0 < num) (denPos : 0 < den) :
    (num / den : ℚ) < overflowBound ↔
      lastPlace num den < 971 ∨ (lastPlace num den = 971 ∧ mantissaOf num den ≠ 2 ^ 53) := by
  obtain ⟨low, high⟩ := leadingExponent_spec numPos denPos
  rw [cast_overflowBound]
  rcases lt_trichotomy (lastPlace num den) 971 with less | same | more
  · refine iff_of_true ?_ (.inl less)
    have small : leadingExponent num den + 1 ≤ 971 + 52 := by
      unfold lastPlace at less
      omega
    calc (num / den : ℚ) < 2 ^ (leadingExponent num den + 1) := high
      _ ≤ 2 ^ (971 + 52 : Int) := zpow_le_zpow_right₀ one_le_two small
      _ = 2 ^ (52 : Int) * 2 ^ (971 : Int) := by rw [← zpow_add₀ two_ne_zero]; rfl
      _ ≤ (2 ^ 53 - 1 / 2) * 2 ^ (971 : Int) := by
        gcongr
        norm_num
  · -- Here the bound lies in the middle between the last two mantissas.
    have atMost : mantissaOf num den ≤ 2 ^ 53 - 1 ↔ _ := mantissaOf_le_iff denPos (2 ^ 53 - 1)
    have odd : ¬ (2 ^ 53 - 1 : Nat) % 2 = 0 := by decide
    have middle : ((2 ^ 53 - 1 : Nat) + 1 / 2 : ℚ) = 2 ^ 53 - 1 / 2 := by norm_num
    rw [middle, same] at atMost
    simp only [odd, and_false, or_false] at atMost
    rw [← atMost]
    have bounded := mantissaOf_le numPos denPos
    constructor
    · intro le
      exact .inr ⟨same, by omega⟩
    · rintro (less | ⟨-, notCarried⟩)
      · omega
      · omega
  · refine iff_of_false (not_lt.mpr ?_) (by omega)
    have large : (971 + 53 : Int) ≤ leadingExponent num den := by
      unfold lastPlace at more
      omega
    calc ((2 ^ 53 - 1 / 2) * 2 ^ (971 : Int) : ℚ) ≤ 2 ^ (53 : Int) * 2 ^ (971 : Int) := by
          gcongr
          norm_num
      _ = 2 ^ (971 + 53 : Int) := by rw [← zpow_add₀ two_ne_zero]; rfl
      _ ≤ 2 ^ leadingExponent num den := zpow_le_zpow_right₀ one_le_two large
      _ ≤ num / den := low

/-- **A fraction overflows just if it is not below the bound.** -/
theorem roundFraction_eq_infinite_iff (negative : Bool) (denPos : 0 < den) :
    roundFraction negative num den = .infinite negative ↔ (overflowBound : ℚ) ≤ num / den := by
  rcases Nat.eq_zero_or_pos num with rfl | numPos
  · refine iff_of_false ?_ ?_
    · unfold roundFraction signedZero
      simp
    · rw [cast_overflowBound, Nat.cast_zero, zero_div, not_le]
      have unit : (0 : ℚ) < 2 ^ (971 : Int) := by positivity
      refine mul_pos ?_ unit
      norm_num
  · rw [← not_lt, lt_overflowBound_iff numPos denPos, roundFraction_eq negative numPos]
    split
    · rename_i carried
      split
      · rename_i above
        simp only [carried, ne_eq, not_true_eq_false, and_false, or_false, true_iff]
        omega
      · rename_i within
        simp only [reduceCtorEq, false_iff, not_not]
        exact .inl (by omega)
    · rename_i notCarried
      split
      · rename_i above
        simp only [true_iff]
        omega
      · rename_i within
        simp only [reduceCtorEq, false_iff, not_not]
        rcases lt_or_eq_of_le (not_lt.mp within) with less | same
        · exact .inl less
        · exact .inr ⟨same, notCarried⟩

/-- A fraction is rounded to a finite number of its sign or overflows. -/
theorem roundFraction_cases (negative : Bool) (num den : Nat) :
    roundFraction negative num den = .infinite negative ∨
      ∃ mantissa place, roundFraction negative num den = .finite negative mantissa place := by
  rcases Nat.eq_zero_or_pos num with rfl | numPos
  · exact .inr ⟨0, -1074, rfl⟩
  · rw [roundFraction_eq negative numPos]
    split <;> split
    · exact .inl rfl
    · exact .inr ⟨_, _, rfl⟩
    · exact .inl rfl
    · exact .inr ⟨_, _, rfl⟩

/-- **A fraction is rounded to a finite number just if it is below the bound.** -/
theorem roundFraction_finite_iff (negative : Bool) (denPos : 0 < den) :
    (∃ mantissa place, roundFraction negative num den = .finite negative mantissa place) ↔
      (num / den : ℚ) < overflowBound := by
  rw [← not_le, ← roundFraction_eq_infinite_iff negative denPos]
  rcases roundFraction_cases negative num den with infinite | ⟨mantissa, place, finite⟩
  · simp [infinite]
  · simp [finite]

/-! ### What rounded numbers are at most -/

section Value

variable {negative sign : Bool} {mantissa : Nat} {place : Int}

/-- The mantissa and the place of a finite number that comes of rounding are bounded. -/
theorem bounds_of_roundFraction (denPos : 0 < den)
    (rounded : roundFraction negative num den = .finite sign mantissa place) :
    mantissa < 2 ^ 53 ∧ place ≤ 971 := by
  rcases Nat.eq_zero_or_pos num with rfl | numPos
  · have zero : signedZero negative = .finite sign mantissa place := rounded
    unfold signedZero at zero
    cases zero
    decide
  · have bounded := mantissaOf_le numPos denPos
    rw [roundFraction_eq negative numPos] at rounded
    split at rounded <;> split at rounded <;> cases rounded
    · exact ⟨by decide, by omega⟩
    · exact ⟨by omega, by omega⟩

/-- A finite number that comes of rounding is below the bound. -/
theorem value_roundFraction_lt (denPos : 0 < den)
    (rounded : roundFraction negative num den = .finite sign mantissa place) :
    (mantissa : ℚ) * 2 ^ place < overflowBound := by
  obtain ⟨few, low⟩ := bounds_of_roundFraction denPos rounded
  have fewQ : (mantissa : ℚ) ≤ 2 ^ 53 - 1 := by
    have le : mantissa ≤ 2 ^ 53 - 1 := by omega
    calc (mantissa : ℚ) ≤ ((2 ^ 53 - 1 : Nat) : ℚ) := by exact_mod_cast le
      _ = 2 ^ 53 - 1 := by norm_num
  have unit : (0 : ℚ) < 2 ^ (971 : Int) := by positivity
  rw [cast_overflowBound]
  calc (mantissa : ℚ) * 2 ^ place ≤ (2 ^ 53 - 1) * 2 ^ (971 : Int) := by
        refine mul_le_mul fewQ (zpow_le_zpow_right₀ one_le_two low) (by positivity) ?_
        norm_num
    _ < (2 ^ 53 - 1 / 2) * 2 ^ (971 : Int) := by
      gcongr
      norm_num

/-- **A fraction of at most one is rounded to a number of at most one.** -/
theorem value_roundFraction_le_one (denPos : 0 < den) (small : num ≤ den)
    (rounded : roundFraction negative num den = .finite sign mantissa place) :
    (mantissa : ℚ) * 2 ^ place ≤ 1 := by
  rcases Nat.eq_zero_or_pos num with rfl | numPos
  · have zero : signedZero negative = .finite sign mantissa place := rounded
    unfold signedZero at zero
    cases zero
    rw [Nat.cast_zero, zero_mul]
    exact zero_le_one
  · have denPosQ : (0 : ℚ) < den := by exact_mod_cast denPos
    have atMostOne : (num / den : ℚ) ≤ 1 := by
      rw [div_le_one denPosQ]
      exact_mod_cast small
    -- The last place is so low that one is a whole number of units.
    have low : lastPlace num den ≤ 0 := by
      have lead : (2 : ℚ) ^ leadingExponent num den ≤ 2 ^ (0 : Int) := by
        rw [zpow_zero]
        exact (leadingExponent_spec numPos denPos).1.trans atMostOne
      have := (zpow_le_zpow_iff_right₀ (one_lt_two (α := ℚ))).mp lead
      unfold lastPlace
      omega
    obtain ⟨count, isCount⟩ := Int.exists_eq_neg_ofNat low
    have units : ((2 ^ count : Nat) : ℚ) * 2 ^ lastPlace num den = 1 := by
      rw [isCount, Nat.cast_pow, Nat.cast_ofNat, ← zpow_natCast, ← zpow_add₀ two_ne_zero,
        add_neg_cancel, zpow_zero]
    have few : mantissaOf num den ≤ 2 ^ count := by
      rw [mantissaOf_le_iff denPos]
      left
      have unit : (0 : ℚ) < 2 ^ lastPlace num den := by positivity
      calc (num / den : ℚ) ≤ 1 := atMostOne
        _ = ((2 ^ count : Nat) : ℚ) * 2 ^ lastPlace num den := units.symm
        _ < ((2 ^ count : Nat) + 1 / 2) * 2 ^ lastPlace num den := by
          gcongr
          linarith
    have whole : (mantissaOf num den : ℚ) * 2 ^ lastPlace num den ≤ 1 := by
      rw [← units]
      gcongr
    rw [roundFraction_eq negative numPos] at rounded
    split at rounded <;> split at rounded <;> cases rounded
    · rename_i carried _
      rw [carried] at whole
      calc ((2 ^ 52 : Nat) : ℚ) * 2 ^ (lastPlace num den + 1)
          = (2 ^ 53 : Nat) * 2 ^ lastPlace num den := by
            rw [zpow_add₀ two_ne_zero, zpow_one]
            push_cast
            ring
        _ ≤ 1 := whole
    · exact whole

end Value

end CodeBrief.Binary64
