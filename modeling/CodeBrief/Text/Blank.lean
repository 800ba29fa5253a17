/-
**Blank characters.**

The characters that separate words, and what follows from them: stripping a text of the blanks at
its ends, and splitting it into words.

* `isBlank` — the test: the ASCII controls from tab to carriage return and from U+001C on, the
  space, the next-line control and every Unicode space, line and paragraph separator.
* `strip` — a text without the blanks at its two ends.
* `words` — the maximal runs of characters that are not blank.
-/

namespace CodeBrief.Text

/-- Whether `c` separates words. -/
def isBlank (c : Char) : Bool :=
  let n := c.toNat
  (9 ≤ n && n ≤ 13) || (28 ≤ n && n ≤ 32) || n == 0x85 || n == 0xA0 || n == 0x1680 ||
    (0x2000 ≤ n && n ≤ 0x200A) || n == 0x2028 || n == 0x2029 || n == 0x202F || n == 0x205F ||
    n == 0x3000

/-- `text` without the characters of `drop` at its end. -/
def trimRight (drop : Char → Bool) (text : List Char) : List Char :=
  (text.reverse.dropWhile drop).reverse

/-- `text` without the blanks at its two ends. -/
def strip (text : List Char) : List Char :=
  trimRight isBlank (text.dropWhile isBlank)

/-- The pieces of `text` between the characters of `separates`, empty ones included: one more than
there are such characters. -/
def pieces (separates : Char → Bool) : List Char → List (List Char)
  | [] => [[]]
  | c :: rest =>
    match pieces separates rest with
    | [] => [[c]]
    | head :: tail => if separates c then [] :: head :: tail else (c :: head) :: tail

/-- The words of `text`: its maximal runs of characters that are not blank. -/
def words (text : List Char) : List (List Char) :=
  (pieces isBlank text).filter fun piece => !piece.isEmpty

/-- `parts` one after another with `separator` between neighbours. -/
def join (separator : List Char) : List (List Char) → List Char
  | [] => []
  | [part] => part
  | part :: next :: rest => part ++ separator ++ join separator (next :: rest)

end CodeBrief.Text
