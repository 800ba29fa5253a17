/-
**Decimal digits.**

A decimal digit of any script has a value from zero to nine. The digits of one script are ten
neighbouring code points.

* `digitValue?` — the value of a digit.
* `takeNatural` — the number that the ASCII digits at the head of a text spell.
* `spell`, `spellInt` — the decimal spelling of a number.
* `digitLimit`, `isSpellable` — the numbers that have such a spelling where digits are limited.
-/

namespace CodeBrief.Text

/-- The zeros of the scripts that have decimal digits, as code points in rising order. -/
def digitZeros : List Nat := [
  0x30, 0x660, 0x6f0, 0x7c0, 0x966, 0x9e6, 0xa66, 0xae6, 0xb66, 0xbe6, 0xc66, 0xce6, 0xd66, 0xde6,
  0xe50, 0xed0, 0xf20, 0x1040, 0x1090, 0x17e0, 0x1810, 0x1946, 0x19d0, 0x1a80, 0x1a90, 0x1b50,
  0x1bb0, 0x1c40, 0x1c50, 0xa620, 0xa8d0, 0xa900, 0xa9d0, 0xa9f0, 0xaa50, 0xabf0, 0xff10, 0x104a0,
  0x10d30, 0x11066, 0x110f0, 0x11136, 0x111d0, 0x112f0, 0x11450, 0x114d0, 0x11650, 0x116c0,
  0x11730, 0x118e0, 0x11950, 0x11c50, 0x11d50, 0x11da0, 0x16a60, 0x16ac0, 0x16b50, 0x1d7ce,
  0x1d7d8, 0x1d7e2, 0x1d7ec, 0x1d7f6, 0x1e140, 0x1e2f0, 0x1e950, 0x1fbf0]

/-- The value of `c` as a decimal digit of some script. -/
def digitValue? (c : Char) : Option Nat :=
  (digitZeros.find? fun first => first ≤ c.toNat && c.toNat < first + 10).map (c.toNat - ·)

/-- The value of `c` as an ASCII digit. -/
def asciiDigit? (c : Char) : Option Nat :=
  if '0' ≤ c ∧ c ≤ '9' then some (c.toNat - 48) else none

/-- The number that the ASCII digits at the head of a text spell after those worth `value`, and
what follows them. -/
def takeNatural (value : Nat) : List Char → Nat × List Char
  | [] => (value, [])
  | c :: rest =>
    match asciiDigit? c with
    | some digit => takeNatural (value * 10 + digit) rest
    | none => (value, c :: rest)

/-- The decimal digits of `n`, the last one first, at most `fuel` of them. -/
def digitsBackwards : (fuel n : Nat) → List Char
  | 0, _ => []
  | fuel + 1, n =>
    Char.ofNat (48 + n % 10) :: (if n < 10 then [] else digitsBackwards fuel (n / 10))

/-- The decimal spelling of `n`. -/
def spell (n : Nat) : List Char :=
  (digitsBackwards (n.log2 + 1) n).reverse

/-- The decimal spelling of `n`, with a minus sign if it is negative. -/
def spellInt (n : Int) : List Char :=
  if n < 0 then '-' :: spell n.natAbs else spell n.natAbs

/-- The largest number of digits where numbers are turned into texts or read from them. -/
def digitLimit : Nat := 4300

/-- Whether a number has no more digits than that. -/
def isSpellable (n : Int) : Bool :=
  n.natAbs < Nat.pow 10 digitLimit

theorem isSpellable_iff {n : Int} : isSpellable n = true ↔ n.natAbs < Nat.pow 10 digitLimit :=
  decide_eq_true_iff

/-- `digits`, read backwards, with a comma after every third one, beginning after `run` of them. -/
def groupBackwards (run : Nat) : List Char → List Char
  | [] => []
  | digit :: rest =>
    if run = 3 then ',' :: digit :: groupBackwards 1 rest
    else digit :: groupBackwards (run + 1) rest

/-- The decimal spelling of `n` with commas between groups of three digits. -/
def spellGrouped (n : Int) : List Char :=
  let digits := (groupBackwards 0 (spell n.natAbs).reverse).reverse
  if n < 0 then '-' :: digits else digits

end CodeBrief.Text
