/-
**Shortest digits are read back.**

What decimal digits are read as depends on their value alone (`ofDecimal_congr`). The digits that are
chosen for a number are the first ones that are read as it. Seventeen digits always are: the decimal
points are then so close that the one nearest to the number lies nearer than half its last place
(`isNear_of_abs_sub_le`), for the first digit is not sought too high (`pow_decimalOrder_le`).

* `shortest_readsBack` — the shortest digits of a number are read as that number.
-/

import CodeBrief.Binary64.Decimal
import CodeBrief.Proofs.Binary64.Nearest
import CodeBrief.Proofs.Text.Spelling

namespace CodeBrief.Binary64

open CodeBrief.Text (spell)

variable {num den mantissa : Nat} {place : Int}

/-! ### Reading digits -/

theorem decimalFraction_snd_pos (digits : Nat) (exponent : Int) :
    0 < (decimalFraction digits exponent).2 :=
  Nat.pow_pos (by decide)

theorem decimalFraction_value (digits : Nat) (exponent : Int) :
    ((decimalFraction digits exponent).1 / (decimalFraction digits exponent).2 : ℚ) =
      digits * 10 ^ exponent := by
  unfold decimalFraction
  simp only [Nat.pow_eq]
  push_cast
  obtain ⟨count, rfl | rfl⟩ := exponent.eq_nat_or_neg
  · simp
  · simp [div_eq_mul_inv]

/-- The digits of a decimal fraction tell its size. -/
theorem decimal_size {digits : Nat} (positive : 0 < digits) (exponent : Int) :
    (10 : ℚ) ^ (exponent + (spell digits).length) ≤ 10 * (digits * 10 ^ exponent) ∧
      (digits * 10 ^ exponent : ℚ) < 10 ^ (exponent + (spell digits).length) := by
  have unit : (0 : ℚ) < 10 ^ exponent := by positivity
  have low : (10 : ℚ) ^ (spell digits).length ≤ 10 * digits := by
    exact_mod_cast Text.pow_le_of_length_spell positive
  have high : (digits : ℚ) < 10 ^ (spell digits).length := by
    exact_mod_cast Text.lt_pow_length_spell digits
  rw [zpow_add₀ (by norm_num), zpow_natCast, mul_comm (10 ^ exponent : ℚ), ← mul_assoc]
  exact ⟨mul_le_mul_of_nonneg_right low unit.le, mul_lt_mul_of_pos_right high unit⟩

theorem lt_of_ten_zpow_lt {left right : Int} (lt : (10 : ℚ) ^ left < 10 ^ right) : left < right :=
  (zpow_lt_zpow_iff_right₀ (by norm_num)).mp lt

/-- Digits of one value have their first digit in one place. -/
theorem firstPlace_congr {digits digits' : Nat} (positive : 0 < digits) (positive' : 0 < digits')
    {exponent exponent' : Int}
    (same : (digits * 10 ^ exponent : ℚ) = digits' * 10 ^ exponent') :
    exponent + (spell digits).length = exponent' + (spell digits').length := by
  obtain ⟨low, high⟩ := decimal_size positive exponent
  obtain ⟨low', high'⟩ := decimal_size positive' exponent'
  have next : ∀ order : Int, (10 : ℚ) ^ (order + 1) = 10 * 10 ^ order := by
    intro order
    rw [add_comm, zpow_one_add₀ (by norm_num)]
  have left : exponent + (spell digits).length < exponent' + (spell digits').length + 1 := by
    refine lt_of_ten_zpow_lt (low.trans_lt ?_)
    rw [next, same]
    gcongr
  have right : exponent' + (spell digits').length < exponent + (spell digits).length + 1 := by
    refine lt_of_ten_zpow_lt (low'.trans_lt ?_)
    rw [next, ← same]
    gcongr
  omega

/-- **Digits of one value are read as one number.** -/
theorem ofDecimal_congr (negative : Bool) {digits digits' : Nat} {exponent exponent' : Int}
    (same : (digits * 10 ^ exponent : ℚ) = digits' * 10 ^ exponent') :
    ofDecimal negative digits exponent = ofDecimal negative digits' exponent' := by
  have unit : ∀ power : Int, (10 : ℚ) ^ power ≠ 0 := fun power => by positivity
  rcases Nat.eq_zero_or_pos digits with rfl | positive
  · obtain rfl : digits' = 0 := by
      rw [Nat.cast_zero, zero_mul, eq_comm, mul_eq_zero, or_iff_left (unit _)] at same
      exact_mod_cast same
    rfl
  · have positive' : 0 < digits' := by
      refine Nat.pos_of_ne_zero ?_
      rintro rfl
      rw [Nat.cast_zero, zero_mul, mul_eq_zero, or_iff_left (unit _)] at same
      exact positive.ne' (by exact_mod_cast same)
    have fraction : roundFraction negative (decimalFraction digits exponent).1
        (decimalFraction digits exponent).2 =
          roundFraction negative (decimalFraction digits' exponent').1
            (decimalFraction digits' exponent').2 := by
      refine roundFraction_congr negative (decimalFraction_snd_pos _ _)
        (decimalFraction_snd_pos _ _) ?_
      rw [decimalFraction_value, decimalFraction_value, same]
    unfold ofDecimal
    rw [if_neg positive.ne', if_neg positive'.ne', firstPlace_congr positive positive' same]
    dsimp only
    rw [fraction]

/-- Within some bounds, the value of digits is rounded. -/
theorem ofDecimal_eq_roundFraction (negative : Bool) {digits : Nat} (positive : 0 < digits)
    {exponent : Int} (least : (10 : ℚ) ^ (-400 : Int) ≤ digits * 10 ^ exponent)
    (greatest : (digits * 10 ^ exponent : ℚ) < 10 ^ (400 : Int)) :
    ofDecimal negative digits exponent =
      roundFraction negative (decimalFraction digits exponent).1
        (decimalFraction digits exponent).2 := by
  obtain ⟨low, high⟩ := decimal_size positive exponent
  have notAbove : exponent + (spell digits).length < 401 := by
    refine lt_of_ten_zpow_lt (low.trans_lt ?_)
    rw [show (401 : Int) = 1 + 400 from rfl, zpow_one_add₀ (by norm_num)]
    gcongr
  have notBelow : -400 < exponent + (spell digits).length :=
    lt_of_ten_zpow_lt (least.trans_lt high)
  unfold ofDecimal
  rw [if_neg positive.ne']
  dsimp only
  rw [if_neg (by omega), if_neg (by omega)]

/-! ### The place of the first digit -/

theorem decimalOrderFrom_le (denPos : 0 < den) (fuel : Nat) {guess : Int}
    (low : (10 : ℚ) ^ guess ≤ num / den) :
    (10 : ℚ) ^ decimalOrderFrom num den fuel guess ≤ num / den := by
  induction fuel generalizing guess with
  | zero => exact low
  | succ fuel ih =>
    have denPosQ : (0 : ℚ) < den := by exact_mod_cast denPos
    have value := decimalFraction_value den (guess + 1)
    have rightPos : (0 : ℚ) < (decimalFraction den (guess + 1)).2 := by
      exact_mod_cast decimalFraction_snd_pos den (guess + 1)
    unfold decimalOrderFrom
    dsimp only
    split
    · exact low
    · rename_i more
      refine ih ?_
      rw [le_div_iff₀ denPosQ, mul_comm, ← value, div_le_iff₀ rightPos]
      exact_mod_cast not_lt.mp more

/-- Ten to a power is at most two to a power if the exponents are in a ratio that is known to do. -/
theorem ten_zpow_le_two_zpow (ten two : Nat) (tenPos : 0 < ten) {decimal binary : Int}
    (ratio : decimal * ten ≤ two * binary)
    (base : ((10 : ℚ) ^ two) ^ binary ≤ (2 ^ ten) ^ binary) :
    (10 : ℚ) ^ decimal ≤ 2 ^ binary := by
  have grown : ((10 : ℚ) ^ decimal) ^ ten ≤ (2 ^ binary) ^ ten := by
    calc ((10 : ℚ) ^ decimal) ^ ten = 10 ^ (decimal * ten) := by rw [zpow_mul, zpow_natCast]
      _ ≤ 10 ^ (two * binary) := zpow_le_zpow_right₀ (by norm_num) ratio
      _ = (10 ^ two) ^ binary := by rw [zpow_mul, zpow_natCast]
      _ ≤ (2 ^ ten) ^ binary := base
      _ = (2 ^ binary) ^ ten := by
        rw [← zpow_natCast (2 : ℚ) ten, ← zpow_mul, mul_comm, zpow_mul, zpow_natCast]
  exact (pow_le_pow_iff_left₀ (by positivity) (by positivity) tenPos.ne').mp grown

/-- **The first digit of a fraction is not sought too high.** -/
theorem pow_decimalOrder_le (numPos : 0 < num) (denPos : 0 < den) :
    (10 : ℚ) ^ decimalOrder num den ≤ num / den := by
  have leading := (leadingExponent_spec numPos denPos).1
  unfold decimalOrder
  dsimp only
  refine decimalOrderFrom_le denPos _ (le_trans ?_ leading)
  generalize leadingExponent num den = binary
  by_cases negative : binary < 0
  · rw [if_pos negative]
    refine ten_zpow_le_two_zpow 33 10 (by decide) (by omega) ?_
    obtain ⟨count, rfl⟩ := Int.exists_eq_neg_ofNat negative.le
    rw [zpow_neg, zpow_neg, zpow_natCast, zpow_natCast]
    gcongr
    norm_num
  · rw [if_neg negative]
    refine ten_zpow_le_two_zpow 10 3 (by decide) (by omega) ?_
    obtain ⟨count, rfl⟩ := Int.eq_ofNat_of_zero_le (not_lt.mp negative)
    rw [zpow_natCast, zpow_natCast]
    gcongr
    norm_num

/-! ### Points of decimal grids -/

/-- A quotient is rounded by at most a half. -/
theorem abs_divideToEven_sub_le (denPos : 0 < den) :
    |(divideToEven num den : ℚ) - num / den| ≤ 1 / 2 := by
  have denPosQ : (0 : ℚ) < den := by exact_mod_cast denPos
  have high := (divideToEven_le_iff denPos).mp (le_refl (divideToEven num den))
  have notAbove : 2 * num ≤ (2 * divideToEven num den + 1) * den := by omega
  have notBelow : 2 * divideToEven num den * den ≤ 2 * num + den := by
    cases isRounded : divideToEven num den with
    | zero => simp
    | succ bound =>
      have more : ¬ divideToEven num den ≤ bound := by omega
      rw [divideToEven_le_iff denPos] at more
      have expanded : 2 * (bound + 1) * den = (2 * bound + 1) * den + den := by ring
      omega
  have notAboveQ : (2 * num : ℚ) ≤ (2 * divideToEven num den + 1) * den := by
    exact_mod_cast notAbove
  have notBelowQ : (2 * divideToEven num den * den : ℚ) ≤ 2 * num + den := by
    exact_mod_cast notBelow
  have above : (num / den : ℚ) ≤ divideToEven num den + 1 / 2 := by
    rw [div_le_iff₀ denPosQ]
    linarith
  have below : (divideToEven num den : ℚ) - 1 / 2 ≤ num / den := by
    rw [le_div_iff₀ denPosQ]
    linarith
  rw [abs_le]
  constructor <;> linarith

/-- **Seventeen digits suffice.** A point within half a unit of a decimal grid is near a number if the
seventeenth digit from the first one on is such a unit. -/
theorem isNear_of_abs_sub_le (number : IsNumber mantissa place) (positive : 0 < mantissa)
    {order : Int} (low : (10 : ℚ) ^ order ≤ mantissa * 2 ^ place) {point : ℚ}
    (close : |point - mantissa * 2 ^ place| ≤ 1 / 2 * 10 ^ (order - 16)) :
    IsNear mantissa place point := by
  have unit : (0 : ℚ) < 2 ^ place := by positivity
  have few : (mantissa : ℚ) + 1 ≤ 2 ^ 53 := by exact_mod_cast number.few
  have split : (10 : ℚ) ^ order = 10 ^ 16 * 10 ^ (order - 16) := by
    rw [← zpow_natCast, ← zpow_add₀ (by norm_num)]
    congr 1
    push_cast
    ring
  rw [split] at low
  generalize (10 : ℚ) ^ (order - 16) = step at low close
  obtain ⟨below, above⟩ := abs_le.mp close
  have short : step < 2 ^ place := by
    have most : (mantissa : ℚ) * 2 ^ place ≤ 2 ^ 53 * 2 ^ place := by
      gcongr
      linarith
    linarith
  refine ⟨by linarith, by linarith, ?_⟩
  rintro rfl
  push_cast at low below ⊢
  linarith

/-- Near a number, digits are within the bounds of what is rounded. -/
theorem bounds_of_isNear (number : IsNumber mantissa place) (positive : 0 < mantissa) {value : ℚ}
    (near : IsNear mantissa place value) :
    (10 : ℚ) ^ (-400 : Int) ≤ value ∧ value < 10 ^ (400 : Int) := by
  have one : (1 : ℚ) ≤ mantissa := by exact_mod_cast positive
  have few : (mantissa : ℚ) + 1 ≤ 2 ^ 53 := by exact_mod_cast number.few
  have cubes : (2 : ℚ) ^ (1200 : Int) ≤ 10 ^ (400 : Int) := by
    rw [show (1200 : Int) = 3 * 400 from rfl, zpow_mul]
    refine zpow_le_zpow_left₀ (by decide) (by positivity) (by norm_num)
  constructor
  · calc (10 : ℚ) ^ (-400 : Int) ≤ 2 ^ (-1200 : Int) := by
          rw [zpow_neg, zpow_neg]
          gcongr
      _ ≤ 2 ^ (-1 + place) := by
        refine zpow_le_zpow_right₀ one_le_two ?_
        have := number.least
        omega
      _ = 1 / 2 * 2 ^ place := by
        rw [zpow_add₀ two_ne_zero]
        norm_num
      _ ≤ (mantissa - 1 / 2) * 2 ^ place := by
        gcongr
        linarith
      _ ≤ value := near.above.le
  · calc value < (mantissa + 1 / 2) * 2 ^ place := near.below
      _ ≤ 2 ^ 53 * 2 ^ place := by
        gcongr
        linarith
      _ = 2 ^ (53 + place) := by
        rw [zpow_add₀ two_ne_zero]
        rfl
      _ ≤ 2 ^ (1200 : Int) := by
        refine zpow_le_zpow_right₀ one_le_two ?_
        have := number.greatest
        omega
      _ ≤ 10 ^ (400 : Int) := cubes

/-- **Digits near a number are read as it.** -/
theorem ofDecimal_near (number : IsNumber mantissa place) (positive : 0 < mantissa) {digits : Nat}
    {exponent : Int} (near : IsNear mantissa place (digits * 10 ^ exponent)) :
    ofDecimal false digits exponent = .finite false mantissa place := by
  obtain ⟨least, greatest⟩ := bounds_of_isNear number positive near
  have digitsPos : 0 < digits := by
    refine Nat.pos_of_ne_zero ?_
    rintro rfl
    rw [Nat.cast_zero, zero_mul] at least
    exact absurd least (not_le.mpr (by positivity))
  rw [ofDecimal_eq_roundFraction false digitsPos least greatest]
  rw [← decimalFraction_value] at near
  have numPos : 0 < (decimalFraction digits exponent).1 :=
    Nat.mul_pos digitsPos (Nat.pow_pos (by decide))
  exact roundFraction_near number numPos (decimalFraction_snd_pos digits exponent) near false

/-- What digits are read as, with a sign. -/
theorem ofDecimal_sign (negative : Bool) {digits : Nat} {exponent : Int}
    (read : ofDecimal false digits exponent = .finite false mantissa place) :
    ofDecimal negative digits exponent = .finite negative mantissa place := by
  unfold ofDecimal at read ⊢
  split at read
  · cases read
    rw [if_pos ‹_›]
    rfl
  · rw [if_neg ‹_›]
    dsimp only at read ⊢
    split at read
    · cases read
    · rw [if_neg ‹_›]
      split at read
      · cases read
        rw [if_pos ‹_›]
        rfl
      · rw [if_neg ‹_›]
        exact roundFraction_sign negative read

/-! ### Shortest digits -/

/-- Digits that are read as a number. -/
def Digits.ReadsBack (digits : Digits) (mantissa : Nat) (place : Int) : Prop :=
  ofDecimal false digits.value digits.exponent = .finite false mantissa place

theorem readsBack_of_gridPoint? {exponent : Int} {digits : Digits}
    (found : gridPoint? mantissa place num den exponent = some digits) :
    digits.ReadsBack mantissa place := by
  unfold gridPoint? at found
  dsimp only at found
  split at found
  · cases found
    exact beq_iff_eq.mp ‹_›
  · split at found
    · cases found
      exact beq_iff_eq.mp ‹_›
    · split at found
      · cases found
        exact beq_iff_eq.mp ‹_›
      · cases found

/-- Some point of a grid is found if seventeen digits are allowed. -/
theorem isSome_gridPoint? (number : IsNumber mantissa place) (positive : 0 < mantissa)
    (denPos : 0 < den) (value : (num / den : ℚ) = mantissa * 2 ^ place) {order : Int}
    (low : (10 : ℚ) ^ order ≤ mantissa * 2 ^ place) :
    (gridPoint? mantissa place num den (order - 16)).isSome := by
  have unit : (0 : ℚ) < 10 ^ (order - 16) := by positivity
  have powerPos : 0 < (decimalFraction 1 (order - 16)).1 :=
    Nat.mul_pos Nat.one_pos (Nat.pow_pos (by decide))
  have rootPos := decimalFraction_snd_pos 1 (order - 16)
  have fraction := decimalFraction_value 1 (order - 16)
  have nearest : ofDecimal false (divideToEven (num * (decimalFraction 1 (order - 16)).2)
      (den * (decimalFraction 1 (order - 16)).1)) (order - 16) = .finite false mantissa place := by
    generalize (decimalFraction 1 (order - 16)).1 = power at *
    generalize (decimalFraction 1 (order - 16)).2 = root at *
    refine ofDecimal_near number positive (isNear_of_abs_sub_le number positive low ?_)
    have close := @abs_divideToEven_sub_le (num * root) (den * power) (Nat.mul_pos denPos powerPos)
    -- The quotient is the number in units of the grid.
    have quotient : ((num * root : Nat) / (den * power : Nat) : ℚ) =
        mantissa * 2 ^ place / 10 ^ (order - 16) := by
      rw [Nat.cast_one, one_mul] at fraction
      push_cast
      rw [mul_div_mul_comm, value, ← fraction, div_div_eq_mul_div, mul_div_assoc]
    rw [quotient] at close
    generalize (divideToEven (num * root) (den * power) : ℚ) = point at *
    calc |point * 10 ^ (order - 16) - mantissa * 2 ^ place|
        = |point - mantissa * 2 ^ place / 10 ^ (order - 16)| * 10 ^ (order - 16) := by
          rw [← abs_of_pos unit, ← abs_mul, abs_of_pos unit, sub_mul, div_mul_cancel₀ _ unit.ne']
      _ ≤ 1 / 2 * 10 ^ (order - 16) := by gcongr
  unfold gridPoint?
  dsimp only
  rw [if_pos (beq_iff_eq.mpr nearest)]
  rfl

theorem readsBack_shortestFrom {order : Int} {fuel count wait : Nat} (enough : wait < fuel)
    (found : (gridPoint? mantissa place num den (order + 1 - (count + wait : Nat))).isSome) :
    (shortestFrom mantissa place num den order fuel count).ReadsBack mantissa place := by
  induction fuel generalizing count wait with
  | zero => omega
  | succ fuel ih =>
    unfold shortestFrom
    split
    · rename_i digits point
      exact readsBack_of_gridPoint? point
    · rename_i none
      cases wait with
      | zero =>
        rw [Nat.add_zero, none] at found
        cases found
      | succ wait =>
        refine ih (Nat.lt_of_succ_lt_succ enough) ?_
        rw [show count + 1 + wait = count + (wait + 1) by omega]
        exact found

theorem readsBack_trim (fuel : Nat) {digits : Digits} (readsBack : digits.ReadsBack mantissa place) :
    (digits.trim fuel).ReadsBack mantissa place := by
  induction fuel generalizing digits with
  | zero => exact readsBack
  | succ fuel ih =>
    unfold Digits.trim
    split
    · rename_i last
      refine ih ?_
      have whole : digits.value = digits.value / 10 * 10 := by omega
      have same : ((digits.value / 10 : Nat) * 10 ^ (digits.exponent + 1) : ℚ) =
          digits.value * 10 ^ digits.exponent := by
        conv_rhs => rw [whole]
        rw [add_comm, zpow_one_add₀ (by norm_num)]
        push_cast
        ring
      exact (ofDecimal_congr false same).trans readsBack
    · exact readsBack

/-- **The shortest digits of a number are read as that number.** -/
theorem shortest_readsBack (negative : Bool) (number : IsNumber mantissa place)
    (positive : 0 < mantissa) :
    ofDecimal negative (shortest mantissa place).value (shortest mantissa place).exponent =
      .finite negative mantissa place := by
  have denPos := scaled_snd_pos mantissa Nat.one_pos place
  have value := scaled_value mantissa 1 place
  rw [Nat.cast_one, div_one] at value
  have numPos : 0 < (scaled mantissa 1 place).1 := by
    have denPosQ : (0 : ℚ) < (scaled mantissa 1 place).2 := by exact_mod_cast denPos
    have amount : (0 : ℚ) < mantissa * 2 ^ place := by positivity
    rw [← value, div_pos_iff_of_pos_right denPosQ] at amount
    exact_mod_cast amount
  have low := pow_decimalOrder_le numPos denPos
  rw [value] at low
  refine ofDecimal_sign negative ?_
  have found := isSome_gridPoint? number positive denPos value low
  have sixteen : ∀ order : Int, order - 16 = order + 1 - (1 + 16 : Nat) := by
    intro order
    omega
  rw [sixteen] at found
  exact readsBack_trim 20 (readsBack_shortestFrom (by decide) found)

theorem shortest_value_pos (number : IsNumber mantissa place) (positive : 0 < mantissa) :
    0 < (shortest mantissa place).value := by
  have read := shortest_readsBack false number positive
  refine Nat.pos_of_ne_zero fun zero => ?_
  rw [zero, ofDecimal, if_pos rfl] at read
  cases read
  exact lt_irrefl 0 positive

end CodeBrief.Binary64
