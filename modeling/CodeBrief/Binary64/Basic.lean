/-
**Binary floating-point numbers of 64 bits.**

A finite number is a sign, a mantissa below `2 ^ 53` and the exponent of its last binary place, at
least `-1074`. Every operation is exact arithmetic on fractions followed by one rounding: to the
nearest number, a tie to the even mantissa, and to infinity beyond the largest finite number.

* `roundFraction` — the number nearest to a fraction.
* `ofInt?` — the number nearest to an integer, unless it is too large.
* `add`, `sub`, `mul` — arithmetic; `lt` — order, in which not-a-number has no place.
* `roundToInt` — the nearest integer, a tie to the even one.
-/

namespace CodeBrief

/-- A floating-point number: finite, infinite or not a number. -/
inductive Binary64 where
  /-- Not a number. -/
  | nan
  /-- An infinity. -/
  | infinite (negative : Bool)
  /-- The number `±mantissa · 2 ^ exponent`. -/
  | finite (negative : Bool) (mantissa : Nat) (exponent : Int)
  deriving DecidableEq, Repr

namespace Binary64

/-- The quotient `num / den` rounded to the nearest integer, a tie to the even one. -/
def divideToEven (num den : Nat) : Nat :=
  let quotient := num / den
  let twice := 2 * (num % den)
  if twice < den ∨ (twice = den ∧ quotient % 2 = 0) then quotient else quotient + 1

/-- The quotient of `num · 2 ^ shift` and `den`, as a fraction without negative powers. -/
def scaled (num den : Nat) (shift : Int) : Nat × Nat :=
  (num <<< shift.toNat, den <<< (-shift).toNat)

/-- The exponent of the first binary place of `num / den`, for a positive fraction. -/
def leadingExponent (num den : Nat) : Int :=
  let guess : Int := (num.log2 : Int) - den.log2
  let (left, right) := scaled num den (-guess)
  if right ≤ left then guess else guess - 1

/-- Zero with a sign. -/
def signedZero (negative : Bool) : Binary64 := .finite negative 0 (-1074)

instance : Inhabited Binary64 := ⟨signedZero false⟩

/-- The number nearest to `±num / den`. -/
def roundFraction (negative : Bool) (num den : Nat) : Binary64 :=
  if num = 0 then signedZero negative
  else
    let place := max (leadingExponent num den - 52) (-1074)
    let (left, right) := scaled num den (-place)
    let mantissa := divideToEven left right
    let (mantissa, place) :=
      if mantissa = 1 <<< 53 then (1 <<< 52, place + 1) else (mantissa, place)
    if 971 < place then .infinite negative else .finite negative mantissa place

/-- The number nearest to `n`, or nothing if that is an infinity. -/
def ofInt? (n : Int) : Option Binary64 :=
  match roundFraction (decide (n < 0)) n.natAbs 1 with
  | .finite negative mantissa exponent => some (.finite negative mantissa exponent)
  | _ => none

/-- The number nearest to `n`. -/
def ofNat (n : Nat) : Binary64 :=
  roundFraction false n 1

/-- The signed numerator and the denominator of a finite number. -/
def fraction (negative : Bool) (mantissa : Nat) (exponent : Int) : Int × Nat :=
  let (num, den) := scaled mantissa 1 exponent
  (if negative then -(num : Int) else num, den)

/-- The number with the other sign. -/
def neg : Binary64 → Binary64
  | .nan => .nan
  | .infinite negative => .infinite !negative
  | .finite negative mantissa exponent => .finite (!negative) mantissa exponent

/-- The sum of two numbers. An exact zero is negative only as the sum of two negative zeros. -/
def add : Binary64 → Binary64 → Binary64
  | .nan, _ => .nan
  | _, .nan => .nan
  | .infinite left, .infinite right => if left = right then .infinite left else .nan
  | .infinite left, .finite .. => .infinite left
  | .finite .., .infinite right => .infinite right
  | .finite leftSign leftMantissa leftExponent, .finite rightSign rightMantissa rightExponent =>
    let (leftNum, leftDen) := fraction leftSign leftMantissa leftExponent
    let (rightNum, rightDen) := fraction rightSign rightMantissa rightExponent
    let num := leftNum * rightDen + rightNum * leftDen
    let negative := if num = 0 then leftSign && rightSign else decide (num < 0)
    roundFraction negative num.natAbs (leftDen * rightDen)

/-- The difference of two numbers. -/
def sub (left right : Binary64) : Binary64 :=
  add left (neg right)

/-- The product of two numbers. -/
def mul : Binary64 → Binary64 → Binary64
  | .nan, _ => .nan
  | _, .nan => .nan
  | .infinite left, .infinite right => .infinite (left != right)
  | .infinite left, .finite right mantissa _ =>
    if mantissa = 0 then .nan else .infinite (left != right)
  | .finite left mantissa _, .infinite right =>
    if mantissa = 0 then .nan else .infinite (left != right)
  | .finite leftSign leftMantissa leftExponent, .finite rightSign rightMantissa rightExponent =>
    let (leftNum, leftDen) := scaled leftMantissa 1 leftExponent
    let (rightNum, rightDen) := scaled rightMantissa 1 rightExponent
    roundFraction (leftSign != rightSign) (leftNum * rightNum) (leftDen * rightDen)

/-- Whether the first number is below the second. -/
def lt : Binary64 → Binary64 → Bool
  | .nan, _ => false
  | _, .nan => false
  | .infinite left, .infinite right => left && !right
  | .infinite left, .finite .. => left
  | .finite .., .infinite right => !right
  | .finite leftSign leftMantissa leftExponent, .finite rightSign rightMantissa rightExponent =>
    let (leftNum, leftDen) := fraction leftSign leftMantissa leftExponent
    let (rightNum, rightDen) := fraction rightSign rightMantissa rightExponent
    decide (leftNum * rightDen < rightNum * leftDen)

/-- Whether a number is zero, of either sign. -/
def isZero : Binary64 → Bool
  | .finite _ mantissa _ => mantissa == 0
  | _ => false

/-- The integer that a number is, if it is one. -/
def toInt? : Binary64 → Option Int
  | .finite negative mantissa exponent =>
    let (num, den) := fraction negative mantissa exponent
    if num % den = 0 then some (num / den) else none
  | _ => none

/-- Why a number has no nearest integer. -/
inductive NoInteger where
  /-- It is infinite. -/
  | infinite
  /-- It is not a number. -/
  | nan
  deriving DecidableEq, Repr

/-- The integer nearest to a number, a tie to the even one. -/
def roundToInt : Binary64 → Except NoInteger Int
  | .nan => .error .nan
  | .infinite _ => .error .infinite
  | .finite negative mantissa exponent =>
    let (num, den) := scaled mantissa 1 exponent
    let rounded := divideToEven num den
    .ok (if negative then -(rounded : Int) else rounded)

end Binary64

end CodeBrief
