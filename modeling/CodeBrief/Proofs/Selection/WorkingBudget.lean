/-
**When a budget has a working part.**

The working part is the product of the budget and of what is left of one, both rounded to
floating-point numbers.

* `IsShare` — that a number is a share that settings may set aside.
* `one_sub_share` — what a share leaves of one is a finite number of at most one.
* `mul_finite` — the product of a finite number that comes of rounding and a number of at most one
  does not overflow.
* `exists_workingBudget`, `workingBudget_of_overflow` — so it is only the budget itself that may be
  too large for a floating-point number.
-/

import CodeBrief.Brief.Selection
import CodeBrief.Proofs.Binary64.Rounding
import CodeBrief.Settings.Field

namespace CodeBrief

/-- A number is a share that settings may set aside: it passes the check of the settings. -/
def Binary64.IsShare (share : Binary64) : Prop :=
  Settings.asShare share = .ok share

namespace Binary64

/-! ### Finite numbers as fractions -/

theorem fraction_snd_pos (negative : Bool) (mantissa : Nat) (place : Int) :
    0 < (fraction negative mantissa place).2 :=
  scaled_snd_pos mantissa Nat.one_pos place

theorem fraction_not (negative : Bool) (mantissa : Nat) (place : Int) :
    fraction (!negative) mantissa place =
      (-(fraction negative mantissa place).1, (fraction negative mantissa place).2) := by
  cases negative <;> simp [fraction]

theorem ofNat_one : ofNat 1 = .finite false (2 ^ 52) (-52) := by decide

theorem fraction_one : fraction false (2 ^ 52) (-52) = (2 ^ 52, 2 ^ 52) := by decide

theorem ofNat_zero : ofNat 0 = .finite false 0 (-1074) := rfl

theorem fraction_zero_fst : (fraction false 0 (-1074)).1 = 0 := by decide

/-- A share is a finite number from nought to below one. -/
theorem IsShare.eq_finite {share : Binary64} (valid : share.IsShare) :
    ∃ negative mantissa place, share = .finite negative mantissa place ∧
      0 ≤ (fraction negative mantissa place).1 ∧
      (fraction negative mantissa place).1 < (fraction negative mantissa place).2 := by
  unfold IsShare Settings.asShare at valid
  split at valid
  · contradiction
  · rename_i below
    split at valid
    · contradiction
    · rename_i above
      cases share with
      | nan => simp [lt] at below
      | infinite negative =>
        cases negative
        · rw [ofNat_one] at below
          simp [lt] at below
        · rw [ofNat_zero] at above
          simp [lt] at above
      | finite negative mantissa place =>
        refine ⟨negative, mantissa, place, rfl, ?_, ?_⟩
        · have positive := fraction_snd_pos false 0 (-1074)
          rw [ofNat_zero] at above
          simp only [lt, fraction_zero_fst, zero_mul, decide_eq_true_eq, not_lt] at above
          exact nonneg_of_mul_nonneg_left above (by exact_mod_cast positive)
        · rw [ofNat_one] at below
          simp only [lt, fraction_one, Bool.not_eq_true, Bool.not_eq_false',
            decide_eq_true_eq] at below
          push_cast at below
          rw [mul_comm] at below
          exact lt_of_mul_lt_mul_left below (by decide)

/-! ### What a share leaves of one -/

/-- **What a share leaves of one is finite and at most one.** -/
theorem one_sub_share {share : Binary64} (valid : share.IsShare) :
    ∃ negative mantissa place, (ofNat 1).sub share = .finite negative mantissa place ∧
      (mantissa : ℚ) * 2 ^ place ≤ 1 := by
  obtain ⟨negative, mantissa, place, rfl, nonneg, below⟩ := valid.eq_finite
  have positive := fraction_snd_pos negative mantissa place
  generalize left : fraction negative mantissa place = parts at nonneg below positive
  obtain ⟨num, den⟩ := parts
  dsimp only at nonneg below positive
  have denPos : 0 < 2 ^ 52 * den := by positivity
  obtain ⟨sign, count, small, difference⟩ : ∃ sign count, count ≤ 2 ^ 52 * den ∧
      (ofNat 1).sub (.finite negative mantissa place) = roundFraction sign count (2 ^ 52 * den) := by
    unfold sub neg
    rw [ofNat_one]
    unfold add
    dsimp only
    rw [fraction_one, fraction_not, left]
    refine ⟨_, _, ?_, rfl⟩
    push_cast
    omega
  have bounded : (count / (2 ^ 52 * den : Nat) : ℚ) < overflowBound := by
    have denPosQ : (0 : ℚ) < (2 ^ 52 * den : Nat) := by exact_mod_cast denPos
    calc (count / (2 ^ 52 * den : Nat) : ℚ) ≤ 1 := by
          rw [div_le_one denPosQ]
          exact_mod_cast small
      _ < overflowBound := one_lt_overflowBound
  obtain ⟨rest, unit, rounded⟩ := (roundFraction_finite_iff sign denPos).mpr bounded
  exact ⟨sign, rest, unit, difference.trans rounded,
    value_roundFraction_le_one denPos small rounded⟩

/-! ### Products -/

/-- **A number that does not overflow, times one of at most one, does not overflow either.** -/
theorem mul_finite {leftSign rightSign : Bool} {leftMantissa rightMantissa : Nat}
    {leftPlace rightPlace : Int}
    (left : (leftMantissa : ℚ) * 2 ^ leftPlace < overflowBound)
    (right : (rightMantissa : ℚ) * 2 ^ rightPlace ≤ 1) :
    ∃ negative mantissa place,
      (Binary64.finite leftSign leftMantissa leftPlace).mul
          (.finite rightSign rightMantissa rightPlace) =
        .finite negative mantissa place := by
  have leftValue := scaled_value leftMantissa 1 leftPlace
  have rightValue := scaled_value rightMantissa 1 rightPlace
  have leftPos := scaled_snd_pos leftMantissa Nat.one_pos leftPlace
  have rightPos := scaled_snd_pos rightMantissa Nat.one_pos rightPlace
  unfold mul
  dsimp only
  generalize scaled leftMantissa 1 leftPlace = leftParts at *
  generalize scaled rightMantissa 1 rightPlace = rightParts at *
  rw [Nat.cast_one, div_one] at leftValue rightValue
  rw [← leftValue] at left
  rw [← rightValue] at right
  have product : ((leftParts.1 * rightParts.1 : Nat) / (leftParts.2 * rightParts.2 : Nat) : ℚ) <
      overflowBound := by
    have nonneg : (0 : ℚ) ≤ leftParts.1 / leftParts.2 := by positivity
    calc ((leftParts.1 * rightParts.1 : Nat) / (leftParts.2 * rightParts.2 : Nat) : ℚ)
        = leftParts.1 / leftParts.2 * (rightParts.1 / rightParts.2) := by
          push_cast
          exact mul_div_mul_comm _ _ _ _
      _ ≤ leftParts.1 / leftParts.2 := mul_le_of_le_one_right nonneg right
      _ < overflowBound := left
  obtain ⟨mantissa, place, rounded⟩ :=
    (roundFraction_finite_iff (leftSign != rightSign) (Nat.mul_pos leftPos rightPos)).mpr product
  exact ⟨_, mantissa, place, rounded⟩

/-! ### Integers -/

/-- An integer has a floating-point number just if its size is below the bound. -/
theorem ofInt?_eq_none_iff (n : Int) : ofInt? n = none ↔ overflowBound ≤ n.natAbs := by
  have overflow : (overflowBound : ℚ) ≤ (n.natAbs : ℚ) / (1 : Nat) ↔ overflowBound ≤ n.natAbs := by
    rw [Nat.cast_one, div_one, Nat.cast_le]
  rw [← overflow, ← roundFraction_eq_infinite_iff (decide (n < 0)) Nat.one_pos]
  unfold ofInt?
  rcases roundFraction_cases (decide (n < 0)) n.natAbs 1 with infinite | ⟨mantissa, place, finite⟩
  · simp [infinite]
  · simp [finite]

/-- The floating-point number of an integer is finite. -/
theorem ofInt?_eq_some {n : Int} {number : Binary64} (found : ofInt? n = some number) :
    ∃ negative mantissa place, number = .finite negative mantissa place ∧
      (mantissa : ℚ) * 2 ^ place < overflowBound := by
  unfold ofInt? at found
  split at found
  · rename_i negative mantissa place rounded
    cases found
    exact ⟨negative, mantissa, place, rfl, value_roundFraction_lt Nat.one_pos rounded⟩
  · contradiction

end Binary64

/-! ### Working budgets -/

section WorkingBudget

variable {reserve : Binary64} {maxTokens : Int}

/-- A budget that is not too large for a floating-point number has a working part. -/
theorem exists_workingBudget (valid : reserve.IsShare)
    (small : maxTokens.natAbs < Binary64.overflowBound) :
    ∃ room, workingBudget reserve maxTokens = .ok room := by
  have known : Binary64.ofInt? maxTokens ≠ none := fun none =>
    absurd ((Binary64.ofInt?_eq_none_iff maxTokens).mp none) (Nat.not_le.mpr small)
  obtain ⟨tokens, found⟩ := Option.ne_none_iff_exists'.mp known
  obtain ⟨negative, mantissa, place, rfl, bounded⟩ := Binary64.ofInt?_eq_some found
  obtain ⟨sign, rest, unit, difference, atMostOne⟩ := Binary64.one_sub_share valid
  obtain ⟨_, _, _, product⟩ :
      ∃ negative' mantissa' place', (Binary64.finite negative mantissa place).mul
        (.finite sign rest unit) = .finite negative' mantissa' place' :=
    Binary64.mul_finite bounded atMostOne
  unfold workingBudget
  rw [found]
  dsimp only
  rw [difference, product]
  exact ⟨_, rfl⟩

/-- A budget that is too large for a floating-point number has no working part. -/
theorem workingBudget_of_overflow (reserve : Binary64)
    (large : Binary64.overflowBound ≤ maxTokens.natAbs) :
    workingBudget reserve maxTokens = .error .tooLarge := by
  unfold workingBudget
  rw [(Binary64.ofInt?_eq_none_iff maxTokens).mpr large]

end WorkingBudget

end CodeBrief
