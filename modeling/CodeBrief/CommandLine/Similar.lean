/-
**Similar words.**

Two words are the more similar, the more of their characters lie in blocks that they share: the
longest common block, then the longest ones among what stands on both sides of it, and so on.

* `sharedCount` — the number of characters in such blocks.
* `closest` — the words most similar to a word, at least by a fixed measure.
-/

import CodeBrief.Order

namespace CodeBrief.CommandLine

/-- A block that two texts share: its place in either of them and its length. -/
structure SharedBlock where
  /-- The place in the first text. -/
  left : Nat
  /-- The place in the second text. -/
  right : Nat
  /-- The length. -/
  length : Nat
  deriving DecidableEq, Repr

/-- The length of the longest common beginning of two texts. -/
def commonLength : List Char → List Char → Nat
  | a :: left, b :: right => if a = b then commonLength left right + 1 else 0
  | _, _ => 0

/-- The longest block that two texts share; of equally long ones the first in the first text, and
then the first in the second one. -/
def longestShared (left right : List Char) : SharedBlock :=
  let blocks := (List.range left.length).flatMap fun i => (List.range right.length).map fun j =>
    (⟨i, j, commonLength (left.drop i) (right.drop j)⟩ : SharedBlock)
  blocks.foldl (fun best block => if best.length < block.length then block else best) ⟨0, 0, 0⟩

/-- The number of characters in the blocks that two texts share; at most `fuel` blocks deep. -/
def sharedFrom : (fuel : Nat) → (left right : List Char) → Nat
  | 0, _, _ => 0
  | fuel + 1, left, right =>
    let block := longestShared left right
    if block.length = 0 then 0
    else block.length + sharedFrom fuel (left.take block.left) (right.take block.right) +
      sharedFrom fuel (left.drop (block.left + block.length))
        (right.drop (block.right + block.length))

/-- The number of characters in the blocks that two texts share. -/
def sharedCount (left right : List Char) : Nat :=
  sharedFrom left.length left right

/-- Whether at least three tenths of the characters of two texts are in the first one and shared. -/
def areSimilar (left right : List Char) : Bool :=
  3 * (left.length + right.length) ≤ 10 * sharedCount left right

/-- Whether `first` is at least as similar to `word` as `second`; of equally similar words the later
one in the order of characters counts as more similar. -/
def isCloser (word first second : String) : Bool :=
  let firstShare := sharedCount first.toList word.toList * (second.length + word.length)
  let secondShare := sharedCount second.toList word.toList * (first.length + word.length)
  secondShare < firstShare || (secondShare == firstShare && textLe second first)

/-- The three of `candidates` most similar to `word`, if there are so many, in the order of
characters. -/
def closest (word : String) (candidates : List String) : List String :=
  let similar := candidates.filter fun candidate => areSimilar candidate.toList word.toList
  sortBy textLe ((sortBy (isCloser word) similar).take 3)

end CodeBrief.CommandLine
