/-
**Lines of limited width.**

A text is broken into lines that take at most a given number of terminal cells. Each of its own
lines is broken before the words that do not fit any more; the blanks after a word belong to it and
may hang over the edge, where they are cut off.

* `Console.wrap` — the lines of a text.
* `Console.fill` — a line with a filling on one side or on both sides.
-/

import CodeBrief.Text.Blank
import CodeBrief.Text.Cells

namespace CodeBrief.Console

/-- A line of text. -/
abbrev Line := List Char

/-- What becomes of a word that is longer than a line. -/
inductive Overflow where
  /-- It goes on in the next line. -/
  | fold
  /-- It is cut off, with an ellipsis at its end. -/
  | ellipsis
  deriving DecidableEq, Repr

/-- Where a line stands in the space that it has. -/
inductive Alignment where
  /-- At the left, without a filling. -/
  | ragged
  /-- At the left. -/
  | left
  /-- In the middle. -/
  | center
  /-- At the right. -/
  | right
  deriving DecidableEq, Repr

/-! ### Words -/

/-- The number of cells between tabulator stops. -/
def tabWidth : Nat := 8

/-- The parts of a line between tabulators, from some column on, with spaces up to the next stop in
the place of each tabulator. -/
def fillTabs : (column : Nat) → (parts : List Line) → Line
  | column, part :: next :: rest =>
    let reached := column + Text.cellLength (part ++ [' '])
    let gap := (tabWidth - reached % tabWidth) % tabWidth
    part ++ ' ' :: List.replicate gap ' ' ++ fillTabs (reached + gap) (next :: rest)
  | _, parts => parts.flatten

/-- A line with spaces in the place of tabulators. -/
def expandTabs (line : Line) : Line :=
  fillTabs 0 (Text.pieces (· == '\t') line)

/-- The blanks in front of a text, its first word with the blanks after it, and the rest; nothing if
there is no word. -/
def takeWord? (text : Line) : Option (Line × Line) :=
  let blanks := text.takeWhile Text.isBlank
  let core := (text.drop blanks.length).takeWhile fun c => !Text.isBlank c
  let rest := text.drop (blanks.length + core.length)
  if core.isEmpty then none
  else some (blanks ++ core ++ rest.takeWhile Text.isBlank, rest.dropWhile Text.isBlank)

/-- The words of a text with the blanks around them; at most `fuel` words are taken. -/
def wordsWithBlanks : (fuel : Nat) → Line → List Line
  | 0, _ => []
  | fuel + 1, text =>
    match takeWord? text with
    | some (word, rest) => word :: wordsWithBlanks fuel rest
    | none => []

/-- Clusters in parts of at most `width` cells; `part` is the part that has been begun, with `used`
cells. -/
def chopFrom (width : Nat) : (part : Line) → (used : Nat) → List Text.Cluster → List Line
  | part, _, [] => [part]
  | part, used, cluster :: rest =>
    if width < used + cluster.cells then part :: chopFrom width cluster.text cluster.cells rest
    else chopFrom width (part ++ cluster.text) (used + cluster.cells) rest

/-- A text in parts of at most `width` cells; a first part that is too wide has an empty one in
front of it. -/
def chop (width : Nat) (text : Line) : List Line :=
  chopFrom width [] 0 (Text.clusters text)

/-! ### Breaking lines -/

/-- Lines that are complete, and a line that has been begun. -/
structure Breaking where
  /-- The complete lines. -/
  complete : List Line := []
  /-- The line that has been begun. -/
  current : Line := []
  /-- The number of cells that it takes. -/
  used : Nat := 0

namespace Breaking

/-- All lines. -/
def lines (state : Breaking) : List Line :=
  state.complete ++ [state.current]

/-- Whether nothing has been written yet. -/
def isBlank (state : Breaking) : Bool :=
  state.complete.isEmpty && state.current.isEmpty

/-- The complete lines once the current one is broken off, unless nothing has been written yet. -/
def brokenOff (state : Breaking) : List Line :=
  if state.isBlank then [] else state.lines

/-- The parts of a word that is longer than a line; no empty one begins a text. -/
def partsOf (width : Nat) (state : Breaking) (word : Line) : List Line :=
  if state.isBlank then (chop width word).dropWhile List.isEmpty else chop width word

/-- The lines after one more word. -/
def addWord (width : Nat) (overflow : Overflow) (state : Breaking) (word : Line) : Breaking :=
  let size := Text.cellLength (Text.trimRight Text.isBlank word)
  if state.used + size ≤ width then
    { state with
      current := state.current ++ word
      used := state.used + Text.cellLength word }
  else if width < size && overflow = .fold then
    let parts := state.partsOf width word
    let last := parts.getLast?.getD []
    ⟨state.brokenOff ++ parts.dropLast, last, Text.cellLength last⟩
  else ⟨state.brokenOff, word, Text.cellLength word⟩

end Breaking

/-- The lines into which a line is broken. -/
def breakLine (width : Nat) (overflow : Overflow) (line : Line) : List Line :=
  match wordsWithBlanks line.length line with
  | [] => [line]
  | words => (words.foldl (Breaking.addWord width overflow) {}).lines

/-! ### Fitting lines -/

/-- A line without those of the blanks at its end that stand behind the first `width` characters. -/
def trimBeyond (width : Nat) (line : Line) : Line :=
  let blanks := line.length - (Text.trimRight Text.isBlank line).length
  line.take (line.length - min blanks (line.length - width))

/-- A line cut off so that it takes at most `width` cells. -/
def shorten (width : Nat) (overflow : Overflow) (line : Line) : Line :=
  if Text.cellLength line ≤ width then line
  else match overflow with
    | .fold => Text.cropToCells width line
    | .ellipsis => Text.cropToCells (width - 1) line ++ ['…']

/-- A line with copies of `filling` around it, up to `width` cells. -/
def fill (filling : Char) (width : Nat) (alignment : Alignment) (line : Line) : Line :=
  let excess := width - Text.cellLength line
  match alignment with
  | .ragged => line
  | .left => line ++ List.replicate excess filling
  | .center => List.replicate (excess / 2) filling ++ line ++
      List.replicate (excess - excess / 2) filling
  | .right => List.replicate excess filling ++ line

/-- A line cut off and filled up, without the blanks at its end if it does not stand at the left. -/
def fit (width : Nat) (alignment : Alignment) (overflow : Overflow) (line : Line) : Line :=
  let trimmed := match alignment with
    | .center | .right => Text.trimRight Text.isBlank line
    | _ => line
  fill ' ' width alignment (shorten width overflow trimmed)

/-- The lines of a text, of at most `width` cells each. -/
def wrap (width : Nat) (alignment : Alignment) (overflow : Overflow) (text : List Char) :
    List Line :=
  (Text.pieces (· == '\n') text).flatMap fun line =>
    ((breakLine width overflow (expandTabs line)).map (trimBeyond width)).map
      (fit width alignment overflow)

end CodeBrief.Console
