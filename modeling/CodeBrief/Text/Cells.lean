/-
**Display width.**

A terminal shows text in cells. A character takes two cells if it is wide or full-width in the East
Asian sense, none if it is a control or combines with the character before it, and one otherwise.
Two characters act on their neighbours: the joiner draws the character after it into the picture
before it, and the picture selector widens a plain pictograph by one cell.

* `cellWidth`, `cellLength` — the cells of a character and of a text.
* `Cluster`, `clusters` — the parts of a text that are not to be torn apart.
* `cropToCells` — the part of a text that fits a number of cells.
-/

import CodeBrief.Text.CellTables
import CodeBrief.Text.WordChar

namespace CodeBrief.Text

/-! ### Cells -/

/-- The number of terminal cells that `c` takes. -/
def cellWidth (c : Char) : Nat :=
  let n := c.toNat
  if n < 32 then 0
  else if n < 127 then 1
  else if n < 160 then 0
  else if n < 0x300 then 1
  else if inRanges unspacedRanges n then 0
  else if inRanges wideRanges n then 2
  else 1

/-- The character that draws the next one into the picture before it. -/
def joiner : Char := Char.ofNat 0x200D

/-- The character that asks for a coloured picture. -/
def pictureSelector : Char := Char.ofNat 0xFE0F

/-- Whether `c` is a plain pictograph that is wider when it is coloured. -/
def isPlainPicture (c : Char) : Bool :=
  inRanges plainPictureRanges c.toNat

/-- The cells that the selector adds to the last character that was seen. -/
def selectorWidth (seen : Option Char) : Nat :=
  if seen.any isPlainPicture then 1 else 0

/-- The cells of a text behind the character `seen`, the last one that takes any and has no selector
yet. -/
def cellsBehind (seen : Option Char) : List Char → Nat
  | [] => 0
  | [c] =>
    if c = joiner then 0
    else if c = pictureSelector then selectorWidth seen
    else cellWidth c
  | c :: next :: rest =>
    if c = joiner then cellsBehind seen rest
    else if c = pictureSelector then selectorWidth seen + cellsBehind none (next :: rest)
    else if cellWidth c = 0 then cellsBehind seen (next :: rest)
    else cellWidth c + cellsBehind (some c) (next :: rest)

/-- The number of terminal cells that `text` takes. -/
def cellLength (text : List Char) : Nat :=
  cellsBehind none text

/-! ### Clusters -/

/-- A character with what joins it, and the number of cells for them. -/
structure Cluster where
  /-- The characters. -/
  text : List Char
  /-- Their cells. -/
  cells : Nat
  deriving DecidableEq, Repr

namespace Cluster

/-- The cluster that a text begins with if `c` is its first character. -/
def start (c : Char) : Cluster :=
  ⟨[c], if c = joiner ∨ c = pictureSelector then 0 else cellWidth c⟩

/-- The cluster with some more characters and cells. -/
def extend (cluster : Cluster) (more : List Char) (cells : Nat) : Cluster :=
  ⟨cluster.text ++ more, cluster.cells + cells⟩

end Cluster

/-- The clusters of a text behind the begun cluster `cluster`; `seen` is the last character that
takes cells and has no selector yet. -/
def clustersBehind (seen : Option Char) (cluster : Cluster) : List Char → List Cluster
  | [] => [cluster]
  | [c] =>
    if c = joiner then [cluster.extend [c] 0]
    else if c = pictureSelector then [cluster.extend [c] (selectorWidth seen)]
    else if cellWidth c = 0 then [cluster.extend [c] 0]
    else [cluster, .start c]
  | c :: next :: rest =>
    if c = joiner then clustersBehind seen (cluster.extend [c, next] 0) rest
    else if c = pictureSelector then
      clustersBehind none (cluster.extend [c] (selectorWidth seen)) (next :: rest)
    else if cellWidth c = 0 then clustersBehind seen (cluster.extend [c] 0) (next :: rest)
    else cluster :: clustersBehind (some c) (.start c) (next :: rest)

/-- The clusters of a text, from left to right. -/
def clusters : List Char → List Cluster
  | [] => []
  | c :: rest =>
    let first := Cluster.start c
    clustersBehind (if first.cells = 0 then none else some c) first rest

/-- The text of some clusters up to `width` cells; one that is cut in two leaves a space. -/
def cropClusters : (width : Nat) → List Cluster → List Char
  | 0, _ => []
  | _, [] => []
  | width, cluster :: rest =>
    if cluster.cells ≤ width then
      cluster.text ++ cropClusters (width - cluster.cells) rest
    else [' ']

/-- The part of a text that takes at most `width` cells; a cluster that is cut in two leaves a
space. -/
def cropToCells (width : Nat) (text : List Char) : List Char :=
  if cellLength text ≤ width then text else cropClusters width (clusters text)

end CodeBrief.Text
