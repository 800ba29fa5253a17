/-
**Panels.**

A panel is a text in a box with rounded corners that takes the whole width of the console. It may
have a title in its upper border.

* `Console.panel` — the lines of a panel.
-/

import CodeBrief.Console.Wrap

namespace CodeBrief.Console

/-- The space between the border of a panel and its text. -/
structure Padding where
  /-- The number of blank lines above and below. -/
  lines : Nat
  /-- The number of spaces on both sides. -/
  spaces : Nat
  deriving DecidableEq, Repr

/-- The number of cells inside the border of a panel of some width. -/
def innerWidth (width : Nat) : Nat :=
  width - 2

/-- The number of cells for the text in a panel. -/
def Padding.room (padding : Padding) (width : Nat) : Nat :=
  innerWidth width - 2 * padding.spaces

/-- Whether there is room for a text in a panel. -/
def Padding.hasRoom (padding : Padding) (width : Nat) : Bool :=
  0 < padding.room width

/-- A border made of horizontal lines between two corners. -/
def border (width : Nat) (left right : Char) : Line :=
  left :: List.replicate (innerWidth width) '─' ++ [right]

/-- The number of cells of a border that a title leaves to the corners and the lines beside it. -/
def titleMargin : Nat := 4

/-- The upper border of a panel, with the title if there is room for one. -/
def upperBorder (width : Nat) (title : Option Line) : Line :=
  match title with
  | none => border width '╭' '╮'
  | some title =>
    let room := width - titleMargin
    if room = 0 then border width '╭' '╮'
    else '╭' :: '─' :: fill '─' room .center (shorten room .fold (' ' :: title ++ [' '])) ++
      ['─', '╮']

/-- The lines of a text between the borders of a panel, none if there is no room for a text. -/
def bodyLines (width : Nat) (padding : Padding) (text : List Char) : List Line :=
  if padding.hasRoom width then
    (wrap (padding.room width) .ragged .fold text).map fun line =>
      List.replicate padding.spaces ' ' ++ line
  else []

/-- The lines of a panel. -/
def panel (width : Nat) (padding : Padding) (title : Option Line) (text : List Char) : List Line :=
  let blank := List.replicate padding.lines []
  let inner := (blank ++ bodyLines width padding text ++ blank).map fun line =>
    '│' :: fill ' ' (innerWidth width) .left line ++ ['│']
  (upperBorder width title :: inner ++ [border width '╰' '╯']).map (Text.cropToCells width)

end CodeBrief.Console
