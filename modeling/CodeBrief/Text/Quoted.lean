/-
**Quoted spellings.**

The spelling of a text between quotes, in which every character is either shown or escaped.

* `quoted` — between apostrophes, or between double quotes if the text holds an apostrophe and no
  double quote; the quote and the backslash are escaped, and so is every unprintable character.
* `hexadecimal` — a number in a fixed count of hexadecimal digits.
-/

import CodeBrief.Text.Printable

namespace CodeBrief.Text

/-- The lower-case hexadecimal digit worth `n`, for `n` below sixteen. -/
def hexDigit (n : Nat) : Char :=
  if n < 10 then Char.ofNat (48 + n) else Char.ofNat (87 + n)

/-- The last `width` hexadecimal digits of `n`. -/
def hexadecimal : (width n : Nat) → List Char
  | 0, _ => []
  | width + 1, n => hexadecimal width (n / 16) ++ [hexDigit (n % 16)]

/-- The quote that a quoted spelling of `text` stands between. -/
def quoteFor (text : List Char) : Char :=
  if text.contains '\'' && !text.contains '"' then '"' else '\''

/-- The spelling of one character between quotes of the kind `quote`. -/
def escapeFor (quote c : Char) : List Char :=
  if c = quote ∨ c = '\\' then ['\\', c]
  else if c = '\t' then ['\\', 't']
  else if c = '\n' then ['\\', 'n']
  else if c = '\r' then ['\\', 'r']
  else if isPrintable c then [c]
  else if c.toNat < 0x100 then '\\' :: 'x' :: hexadecimal 2 c.toNat
  else if c.toNat < 0x10000 then '\\' :: 'u' :: hexadecimal 4 c.toNat
  else '\\' :: 'U' :: hexadecimal 8 c.toNat

/-- The quoted spelling of `text`. -/
def quoted (text : List Char) : List Char :=
  let quote := quoteFor text
  quote :: text.flatMap (escapeFor quote) ++ [quote]

end CodeBrief.Text
