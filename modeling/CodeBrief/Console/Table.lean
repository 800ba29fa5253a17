/-
**Tables.**

A table has a title above it, a heading for each column and rows, some of which end a section. A
column is as wide as its widest cell, with a space on both sides. If the table is too wide for the
console, the widest columns are narrowed until it fits, and the cells are broken into lines.

* `Table.lines` — the lines of a table.
* `Table.columnWidths` — the widths of the columns.
-/

import CodeBrief.Binary64.Basic
import CodeBrief.Console.Wrap
import CodeBrief.Text.Line

namespace CodeBrief.Console

/-- A column of a table. -/
structure Column where
  /-- The text above it. -/
  heading : List Char
  /-- Where its cells stand. -/
  alignment : Alignment := .left
  deriving Repr

/-- A row of a table. -/
structure Row where
  /-- The texts of its cells. -/
  cells : List (List Char)
  /-- Whether a section ends with it. -/
  endsSection : Bool := false
  deriving Repr

/-- A table. -/
structure Table where
  /-- The text above it. -/
  title : List Char
  /-- Its columns. -/
  columns : List Column
  /-- Its rows. -/
  rows : List Row
  deriving Repr

namespace Table

/-! ### Widths -/

/-- The space on both sides of a cell. -/
def cellPadding : Nat := 2

/-- The number of cells that the longest line of a text takes. -/
def textWidth (text : List Char) : Nat :=
  ((Text.lines text).map Text.cellLength).foldl max 0

/-- The width that a cell asks for where there is room for `room` cells. -/
def cellWidth (room : Nat) (text : List Char) : Nat :=
  if room < cellPadding + 1 then room else min (textWidth text + cellPadding) room

/-- The number of cells that the borders of a table with some number of columns take. -/
def bordersOf (columns : Nat) : Nat := columns + 1

/-- Whether the cells of a table with some number of columns have room for a character. -/
def hasRoom (width columns : Nat) : Bool :=
  bordersOf columns + cellPadding < width

/-- The texts of the column with some number, from the heading down. -/
def columnTexts (table : Table) (number : Nat) (column : Column) : List (List Char) :=
  column.heading :: table.rows.map fun row => row.cells.getD number []

/-- The width that each column asks for, where there is room for the number of cells beside it. -/
def askedWidths (table : Table) (rooms : List Nat) : List Nat :=
  (table.columns.zipIdx.zip rooms).map fun ((column, number), room) =>
    ((table.columnTexts number column).map (cellWidth room)).foldl max 0

/-- `widths` made smaller by `excess` in all, as evenly as possible, where `chosen` says so; no
width loses more than its limit. A share that is half a cell is rounded to the even number. -/
def reduce (excess : Nat) : (chosen : List Bool) → (limits widths : List Nat) → List Nat
  | true :: chosen, limit :: limits, width :: widths =>
    let share := min limit (Binary64.divideToEven excess (1 + chosen.count true))
    (width - share) :: reduce (excess - share) chosen limits widths
  | _ :: chosen, _ :: limits, width :: widths => width :: reduce excess chosen limits widths
  | _, _, widths => widths

/-- The number of cells of some widths together. -/
def totalWidth (widths : List Nat) : Nat :=
  widths.foldr (· + ·) 0

/-- Widths of which the greatest ones are made smaller, down to the next smaller ones at a time,
until they are at most `room` together. -/
def collapse (room : Nat) : (fuel : Nat) → (widths : List Nat) → List Nat
  | 0, widths => widths
  | fuel + 1, widths =>
    let excess := totalWidth widths - room
    if excess = 0 then widths
    else
      let greatest := widths.foldl max 0
      let next := (widths.filter (· != greatest)).foldl max 0
      if greatest = next then widths
      else
        let limit := min excess (greatest - next)
        collapse room fuel
          (reduce excess (widths.map (· == greatest)) (widths.map fun _ => limit) widths)

/-- Widths that are at most `room` together, unless there are too many of them. -/
def narrow (room : Nat) (widths : List Nat) : List Nat :=
  let collapsed := collapse room (totalWidth widths) widths
  if totalWidth collapsed ≤ room then collapsed
  else reduce (totalWidth collapsed - room) (collapsed.map (· != 0)) collapsed collapsed

/-- The number of cells that the borders of a table take. -/
def borderWidth (table : Table) : Nat :=
  bordersOf table.columns.length

/-- The widths of the columns on a console of some width. -/
def columnWidths (width : Nat) (table : Table) : List Nat :=
  let room := width - table.borderWidth
  let asked := (table.askedWidths (table.columns.map fun _ => room)).map (max 1)
  if totalWidth asked ≤ room then asked else table.askedWidths (narrow room asked)

/-! ### Borders -/

/-- The characters of a horizontal border: its ends, what it is made of, and what stands between two
columns. -/
structure Border where
  /-- The left end. -/
  left : Char
  /-- What it is made of. -/
  middle : Char
  /-- What stands between two columns. -/
  divider : Char
  /-- The right end. -/
  right : Char

/-- The border above the headings. -/
def topBorder : Border := ⟨'┏', '━', '┳', '┓'⟩

/-- The border below the headings. -/
def headBorder : Border := ⟨'┡', '━', '╇', '┩'⟩

/-- The border between two sections. -/
def sectionBorder : Border := ⟨'├', '─', '┼', '┤'⟩

/-- The border below the rows. -/
def bottomBorder : Border := ⟨'└', '─', '┴', '┘'⟩

/-- The line of a border. -/
def Border.line (border : Border) (widths : List Nat) : Line :=
  border.left ::
    Text.join [border.divider] (widths.map fun width => List.replicate width border.middle) ++
    [border.right]

/-! ### Rows -/

/-- The lines of a cell, with a space on both sides; none if there is no room for a text. -/
def cellLines (column : Column) (width : Nat) (text : List Char) : List Line :=
  if width ≤ cellPadding then []
  else (wrap (width - cellPadding) column.alignment .ellipsis text).map fun line =>
    fill ' ' width .left (' ' :: line)

/-- Lines filled up with blank ones, above or below, to some number. -/
def fillLines (atBottom : Bool) (count width : Nat) (lines : List Line) : List Line :=
  let blank := List.replicate (count - lines.length) (List.replicate width ' ')
  if atBottom then blank ++ lines else lines ++ blank

/-- The lines of a row between the borders of a table; cells with fewer lines than others stand at
the top, or at the bottom. -/
def rowLines (table : Table) (widths : List Nat) (divider : Char) (atBottom : Bool)
    (cells : List (List Char)) : List Line :=
  let blocks := (table.columns.zip (widths.zip cells)).map fun (column, width, text) =>
    (width, cellLines column width text)
  let height := (blocks.map fun (_, lines) => lines.length).foldl max 1
  let filled := blocks.map fun (width, lines) => fillLines atBottom height width lines
  (List.range height).map fun number =>
    divider :: Text.join [divider] (filled.map fun lines => lines.getD number []) ++ [divider]

/-- The lines of some rows, with a border behind each section but the last. -/
def bodyLines (table : Table) (widths : List Nat) : List Row → List Line
  | [] => []
  | row :: rest =>
    table.rowLines widths '│' false row.cells ++
      (if row.endsSection && !rest.isEmpty then [sectionBorder.line widths] else []) ++
      bodyLines table widths rest

/-- The lines of a table on a console of some width. -/
def lines (width : Nat) (table : Table) : List Line :=
  let widths := table.columnWidths width
  (wrap (totalWidth widths + table.borderWidth) .center .fold table.title ++
    topBorder.line widths ::
    table.rowLines widths '┃' true (table.columns.map Column.heading) ++
    headBorder.line widths ::
    table.bodyLines widths table.rows ++
    [bottomBorder.line widths]).map (Text.cropToCells width)

end Table

end CodeBrief.Console
