/-
**The fractions that are rounded to a number.**

Rounding depends on the value of a fraction alone (`roundFraction_congr`). A fraction that is less than
half a last place away from a number is rounded to it (`roundFraction_near`). Below a power of two the
numbers lie twice as close, so that there a fraction has to be twice as near.

* `IsNumber` — the mantissas and places of numbers: each number has one mantissa and one place.
-/

import CodeBrief.Proofs.Binary64.Rounding

namespace CodeBrief.Binary64

variable {num den num' den' : Nat}

/-! ### Fractions of one value -/

theorem leadingExponent_eq (numPos : 0 < num) (denPos : 0 < den) {place : Int}
    (low : (2 : ℚ) ^ place ≤ num / den) (high : (num / den : ℚ) < 2 ^ (place + 1)) :
    leadingExponent num den = place := by
  obtain ⟨least, greatest⟩ := leadingExponent_spec numPos denPos
  have two : (1 : ℚ) < 2 := one_lt_two
  have below := (zpow_lt_zpow_iff_right₀ two).mp (least.trans_lt high)
  have above := (zpow_lt_zpow_iff_right₀ two).mp (low.trans_lt greatest)
  omega

section Congr

variable (numPos : 0 < num) (denPos : 0 < den) (denPos' : 0 < den')
  (same : (num / den : ℚ) = num' / den')
include denPos denPos' same

theorem num_pos_congr : 0 < num ↔ 0 < num' := by
  have leftQ : (0 : ℚ) < den := by exact_mod_cast denPos
  have rightQ : (0 : ℚ) < den' := by exact_mod_cast denPos'
  have left : 0 < num ↔ (0 : ℚ) < num / den := by rw [div_pos_iff_of_pos_right leftQ, Nat.cast_pos]
  have right : 0 < num' ↔ (0 : ℚ) < num' / den' := by
    rw [div_pos_iff_of_pos_right rightQ, Nat.cast_pos]
  rw [left, right, same]

include numPos

theorem lastPlace_congr : lastPlace num den = lastPlace num' den' := by
  have numPos' := (num_pos_congr denPos denPos' same).mp numPos
  obtain ⟨low, high⟩ := leadingExponent_spec numPos' denPos'
  rw [← same] at low high
  unfold lastPlace
  rw [leadingExponent_eq numPos denPos low high]

theorem mantissaOf_congr : mantissaOf num den = mantissaOf num' den' := by
  have atMost : ∀ bound, mantissaOf num den ≤ bound ↔ mantissaOf num' den' ≤ bound := by
    intro bound
    rw [mantissaOf_le_iff denPos, mantissaOf_le_iff denPos', same,
      lastPlace_congr numPos denPos denPos' same]
  exact le_antisymm ((atMost _).mpr le_rfl) ((atMost _).mp le_rfl)

end Congr

/-- **Fractions of one value are rounded to one number.** -/
theorem roundFraction_congr (negative : Bool) (denPos : 0 < den) (denPos' : 0 < den')
    (same : (num / den : ℚ) = num' / den') :
    roundFraction negative num den = roundFraction negative num' den' := by
  have positive := num_pos_congr denPos denPos' same
  rcases Nat.eq_zero_or_pos num with rfl | numPos
  · obtain rfl : num' = 0 := by
      by_contra nonzero
      exact lt_irrefl 0 (positive.mpr (Nat.pos_of_ne_zero nonzero))
    rfl
  · rw [roundFraction_eq negative numPos, roundFraction_eq negative (positive.mp numPos),
      mantissaOf_congr numPos denPos denPos' same, lastPlace_congr numPos denPos denPos' same]

/-! ### Fractions near a number -/

/-- A mantissa and a place that a number has: below the least place there is none, and above it the
mantissa has all its digits. -/
structure IsNumber (mantissa : Nat) (place : Int) : Prop where
  few : mantissa < 2 ^ 53
  least : -1074 ≤ place
  greatest : place ≤ 971
  full : 2 ^ 52 ≤ mantissa ∨ place = -1074

/-- A number that is finite, as its one mantissa and place. -/
def IsFinite : Binary64 → Prop
  | .finite _ mantissa place => IsNumber mantissa place
  | _ => False

/-- A fraction that is so near to a number that it is rounded to it. -/
structure IsNear (mantissa : Nat) (place : Int) (value : ℚ) : Prop where
  below : value < (mantissa + 1 / 2) * 2 ^ place
  above : (mantissa - 1 / 2) * 2 ^ place < value
  /-- The number before a power of two is only half as far away. -/
  power : mantissa = 2 ^ 52 → (mantissa - 1 / 4) * 2 ^ place < value

section Near

variable {mantissa : Nat} {place : Int} (number : IsNumber mantissa place) (numPos : 0 < num)
  (denPos : 0 < den) (near : IsNear mantissa place (num / den))
include number numPos denPos near

/-- Where the last place of a near fraction is: that of the number, or the one before it if the
fraction lies below a power of two. -/
theorem lastPlace_near :
    lastPlace num den = place ∨ (mantissa = 2 ^ 52 ∧ lastPlace num den = place - 1) := by
  obtain ⟨low, high⟩ := leadingExponent_spec numPos denPos
  have unit : (0 : ℚ) < 2 ^ place := by positivity
  have exponents : ∀ {left right : Int}, (2 : ℚ) ^ left < 2 ^ right → left < right :=
    (zpow_lt_zpow_iff_right₀ one_lt_two).mp
  have shifted : ∀ shift : Int, (2 : ℚ) ^ (place + shift) = 2 ^ shift * 2 ^ place := by
    intro shift
    rw [add_comm, zpow_add₀ two_ne_zero]
  have few : (mantissa : ℚ) + 1 / 2 ≤ 2 ^ (53 : Int) := by
    have next : (mantissa : ℚ) + 1 ≤ 2 ^ 53 := by exact_mod_cast number.few
    rw [zpow_ofNat]
    linarith
  have notAbove : leadingExponent num den < place + 53 := by
    refine exponents (low.trans_lt (near.below.trans_le ?_))
    rw [shifted]
    gcongr
  have least := number.least
  unfold lastPlace
  by_cases reached : (2 : ℚ) ^ (place + 52) ≤ num / den
  · have notBelow := exponents (reached.trans_lt high)
    exact Or.inl (by omega)
  · by_cases lowest : place = -1074
    · exact Or.inl (by omega)
    · -- The number has all its digits, so that only a power of two lies so low.
      rw [not_le] at reached
      have full := number.full.resolve_right lowest
      have isPower : mantissa = 2 ^ 52 := by
        refine le_antisymm ?_ full
        by_contra more
        have next : (2 ^ 52 : ℚ) + 1 ≤ mantissa := by exact_mod_cast not_le.mp more
        have between := near.above.trans reached
        rw [shifted, mul_lt_mul_iff_left₀ unit, zpow_ofNat] at between
        linarith
      have notBelow : place + 51 < leadingExponent num den + 1 := by
        refine exponents (lt_of_le_of_lt ?_ ((near.power isPower).trans high))
        rw [shifted, isPower]
        gcongr
        norm_num
      have notAbove := exponents (low.trans_lt reached)
      exact Or.inr ⟨isPower, by omega⟩

/-- **A fraction near a number is rounded to it.** -/
theorem roundFraction_near (negative : Bool) :
    roundFraction negative num den = .finite negative mantissa place := by
  have few := number.few
  have greatest := number.greatest
  rw [roundFraction_eq negative numPos]
  rcases lastPlace_near number numPos denPos near with same | ⟨isPower, before⟩
  · have isMantissa : mantissaOf num den = mantissa := by
      refine le_antisymm ?_ ?_
      · rw [mantissaOf_le_iff denPos, same]
        exact Or.inl near.below
      · by_contra less
        obtain ⟨bound, rfl⟩ := Nat.exists_eq_succ_of_ne_zero (Nat.ne_zero_of_lt (not_le.mp less))
        have small := (mantissaOf_le_iff denPos bound).mp (Nat.le_of_lt_succ (not_le.mp less))
        have above := near.above
        rw [same] at small
        push_cast at above
        rw [show (bound : ℚ) + 1 - 1 / 2 = bound + 1 / 2 by ring] at above
        rcases small with below | ⟨middle, -⟩
        · exact lt_asymm below above
        · exact above.ne' middle
    rw [isMantissa, same, if_neg (by omega), if_neg (by omega)]
  · have carried : mantissaOf num den = 2 ^ 53 := by
      refine le_antisymm (mantissaOf_le numPos denPos) ?_
      by_contra less
      have small := (mantissaOf_le_iff denPos (2 ^ 53 - 1)).mp (Nat.le_pred_of_lt (not_le.mp less))
      have odd : ¬ (2 ^ 53 - 1 : Nat) % 2 = 0 := by decide
      have last : ((2 ^ 53 - 1 : Nat) + 1 / 2 : ℚ) = 2 ^ 53 - 1 / 2 := by norm_num
      have halved : (2 : ℚ) ^ place = 2 * 2 ^ (place - 1) := by
        rw [← zpow_one_add₀ two_ne_zero]
        congr 1
        ring
      have quarter : (((2 ^ 52 : Nat) : ℚ) - 1 / 4) * 2 ^ place = (2 ^ 53 - 1 / 2) * 2 ^ (place - 1) := by
        rw [halved]
        push_cast
        ring
      have above := near.power isPower
      rw [isPower, quarter] at above
      rw [last, before] at small
      simp only [odd, and_false, or_false] at small
      exact lt_asymm small above
    rw [carried, if_pos rfl, if_neg (by omega), isPower, before, Int.sub_add_cancel]

end Near

/-! ### Signs -/

/-- The sign plays no part in rounding. -/
theorem roundFraction_sign (negative : Bool) {mantissa : Nat} {place : Int}
    (rounded : roundFraction false num den = .finite false mantissa place) :
    roundFraction negative num den = .finite negative mantissa place := by
  rcases Nat.eq_zero_or_pos num with rfl | numPos
  · have zero : signedZero false = .finite false mantissa place := rounded
    cases zero
    rfl
  · rw [roundFraction_eq _ numPos] at rounded ⊢
    split at rounded <;> split at rounded <;> cases rounded <;> simp_all

end CodeBrief.Binary64
