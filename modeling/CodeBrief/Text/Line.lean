/-
**Lines.**

A line ends at a line break: a line feed, a carriage return, a carriage return with a line feed, a
vertical tab, a form feed, one of the separators U+001C to U+001E, the next-line control, or the
Unicode line or paragraph separator.

* `lines` — the lines of a text without their breaks; a break at the very end begins no line.
* `unifyBreaks` — a text with each carriage return, alone or before a line feed, as a line feed.
-/

namespace CodeBrief.Text

/-- Whether `c` breaks lines. -/
def isLineBreak (c : Char) : Bool :=
  let n := c.toNat
  (10 ≤ n && n ≤ 13) || (28 ≤ n && n ≤ 30) || n == 0x85 || n == 0x2028 || n == 0x2029

/-- The lines of a text, without the breaks that end them. -/
def lines : List Char → List (List Char)
  | [] => []
  | '\r' :: '\n' :: rest => [] :: lines rest
  | c :: rest =>
    if isLineBreak c then [] :: lines rest
    else match lines rest with
      | [] => [[c]]
      | head :: tail => (c :: head) :: tail

/-- `text` with each carriage return, alone or before a line feed, as one line feed. -/
def unifyBreaks : List Char → List Char
  | [] => []
  | '\r' :: '\n' :: rest => '\n' :: unifyBreaks rest
  | c :: rest => (if c = '\r' then '\n' else c) :: unifyBreaks rest

end CodeBrief.Text
