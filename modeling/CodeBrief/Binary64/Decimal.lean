/-
**Decimal forms of floating-point numbers.**

Between decimal digits and binary numbers, both ways.

* `ofDecimal` — the number nearest to a decimal fraction.
* `shortest` — the fewest digits that read back as the number: the first grid of decimal points that
  has one, and of two the nearer.
* `fixed` — a number with a fixed count of decimal places, a tie to the even last digit.
* `Layout.write` — shortest digits laid out, positionally or with an exponent.
-/

import CodeBrief.Binary64.Basic
import CodeBrief.Text.Digit

namespace CodeBrief.Binary64

open CodeBrief.Text (spell)

/-! ### Reading -/

/-- The fraction `digits · 10 ^ exponent`. -/
def decimalFraction (digits : Nat) (exponent : Int) : Nat × Nat :=
  (digits * Nat.pow 10 exponent.toNat, Nat.pow 10 (-exponent).toNat)

/-- The number nearest to `±digits · 10 ^ exponent`. Far beyond the range of finite numbers the
power is not worked out. -/
def ofDecimal (negative : Bool) (digits : Nat) (exponent : Int) : Binary64 :=
  if digits = 0 then signedZero negative
  else
    let order := exponent + (spell digits).length
    if 400 < order then .infinite negative
    else if order < -400 then signedZero negative
    else
      let (num, den) := decimalFraction digits exponent
      roundFraction negative num den

/-! ### Shortest digits -/

/-- Some digits and the exponent of the last one. -/
structure Digits where
  /-- The digits as one number. -/
  value : Nat
  /-- The decimal exponent of the last digit. -/
  exponent : Int
  deriving DecidableEq, Repr

/-- The exponent of the first decimal place of `num / den`, for a positive fraction, sought upward
from `guess` with `fuel` steps. -/
def decimalOrderFrom (num den : Nat) : (fuel : Nat) → (guess : Int) → Int
  | 0, guess => guess
  | fuel + 1, guess =>
    let (left, right) := decimalFraction den (guess + 1)
    if num * right < left then guess else decimalOrderFrom num den fuel (guess + 1)

/-- The exponent of the first decimal place of `num / den`, for a positive fraction. -/
def decimalOrder (num den : Nat) : Int :=
  let binary := leadingExponent num den
  -- one binary place is a little more than three tenths of a decimal one
  let guess := binary * 3 / 10 - 2 - (if binary < 0 then -binary / 300 + 2 else 0)
  decimalOrderFrom num den (binary.natAbs / 100 + 8) guess

/-- Of the two points below and above `num / den` on the grid of multiples of `10 ^ exponent`, the
one that reads back as `mantissa · 2 ^ place`, the nearer one if both do. -/
def gridPoint? (mantissa : Nat) (place : Int) (num den : Nat) (exponent : Int) : Option Digits :=
  let (power, root) := decimalFraction 1 exponent
  let left := num * root
  let right := den * power
  let below := left / right
  let readsBack (point : Nat) : Bool :=
    ofDecimal false point exponent == .finite false mantissa place
  let nearest := divideToEven left right
  if readsBack nearest then some ⟨nearest, exponent⟩
  else if readsBack below then some ⟨below, exponent⟩
  else if readsBack (below + 1) then some ⟨below + 1, exponent⟩
  else none

/-- The fewest digits, at most `fuel` more than `count`, that read back. -/
def shortestFrom (mantissa : Nat) (place : Int) (num den : Nat) (order : Int) :
    (fuel count : Nat) → Digits
  | 0, count => ⟨divideToEven num den, order + 1 - count⟩
  | fuel + 1, count =>
    match gridPoint? mantissa place num den (order + 1 - count) with
    | some digits => digits
    | none => shortestFrom mantissa place num den order fuel (count + 1)

/-- `digits` without the zeros at their end, at most `fuel` of them. -/
def Digits.trim : (fuel : Nat) → Digits → Digits
  | 0, digits => digits
  | fuel + 1, digits =>
    if digits.value ≠ 0 ∧ digits.value % 10 = 0 then
      Digits.trim fuel ⟨digits.value / 10, digits.exponent + 1⟩
    else digits

/-- The fewest digits that read back as `mantissa · 2 ^ place`, which is not zero. -/
def shortest (mantissa : Nat) (place : Int) : Digits :=
  let (num, den) := scaled mantissa 1 place
  (shortestFrom mantissa place num den (decimalOrder num den) 17 1).trim 20

/-! ### Layout -/

/-- How the digits of a number are laid out. -/
structure Layout where
  /-- The least order, the exponent of the first digit, that is written positionally. -/
  leastPositional : Int
  /-- The first order that is written with an exponent again. -/
  firstExponential : Int
  /-- The least number of digits of an exponent. -/
  exponentWidth : Nat
  /-- The text for the positive infinity. -/
  infinity : String
  /-- The text for the negative infinity. -/
  negativeInfinity : String
  /-- The text for what is not a number. -/
  notANumber : String

/-- The layout of compact records: positional from `0.00001` to below `10 ^ 16`, and nothing but a
null for what is not finite. -/
def Layout.compact : Layout := ⟨-5, 16, 1, "null", "null", "null"⟩

/-- The layout of settings files: positional from `0.0001` to below `10 ^ 16`, and exponents of two
digits. -/
def Layout.settings : Layout := ⟨-4, 16, 2, "Infinity", "-Infinity", "NaN"⟩

/-- The layout of values shown to people. -/
def Layout.display : Layout := ⟨-4, 16, 2, "inf", "-inf", "nan"⟩

/-- `text` after as many zeros as make it `width` long. -/
def padZeros (width : Nat) (text : List Char) : List Char :=
  List.replicate (width - text.length) '0' ++ text

/-- The text of a number in a layout. -/
def Layout.write (layout : Layout) : Binary64 → List Char
  | .nan => layout.notANumber.toList
  | .infinite negative => (if negative then layout.negativeInfinity else layout.infinity).toList
  | .finite negative mantissa exponent =>
    let sign := if negative then ['-'] else []
    if mantissa = 0 then sign ++ "0.0".toList
    else
      let digits := shortest mantissa exponent
      let text := spell digits.value
      let order := digits.exponent + text.length - 1
      sign ++
        if layout.leastPositional ≤ order ∧ order < layout.firstExponential then
          if 0 ≤ digits.exponent then
            text ++ List.replicate digits.exponent.toNat '0' ++ ['.', '0']
          else if 0 ≤ order then
            text.take (order + 1).toNat ++ '.' :: text.drop (order + 1).toNat
          else '0' :: '.' :: List.replicate (-order - 1).toNat '0' ++ text
        else
          text.take 1 ++ (if text.length = 1 then [] else '.' :: text.drop 1) ++ 'e' ::
            (if order < 0 then '-' else '+') :: padZeros layout.exponentWidth (spell order.natAbs)

/-! ### Fixed places -/

/-- The text of a number with `places` decimal places, a tie to the even last digit. -/
def fixed (places : Nat) : Binary64 → List Char
  | .nan => "nan".toList
  | .infinite negative => (if negative then ['-'] else []) ++ "inf".toList
  | .finite negative mantissa exponent =>
    let (num, den) := scaled mantissa 1 exponent
    let text := padZeros (places + 1) (spell (divideToEven (num * Nat.pow 10 places) den))
    let whole := text.length - places
    (if negative then ['-'] else []) ++ text.take whole ++
      (if places = 0 then [] else '.' :: text.drop whole)

end CodeBrief.Binary64
