/-
**Lower-casing.**

The full lower-case form of a text. Each character has a form of its own, with two exceptions: the
capital I with a dot becomes an i followed by a combining dot, and a capital sigma that ends a word
becomes the final sigma.

* `lower` — the lower-case form.
* `endsWord` — whether a capital sigma between two texts ends a word: the nearest character before
  it that is not case-ignorable is cased, and the nearest one after it is not.
-/

import CodeBrief.Text.WordChar
import CodeBrief.Text.CaseTables

namespace CodeBrief.Text

/-- Whether `c` is skipped when the neighbours of a capital sigma are looked for. -/
def isCaseIgnorable (c : Char) : Bool :=
  inRanges caseIgnorableRanges c.toNat

/-- Whether `c` is cased, for a character that is not skipped. -/
def isCased (c : Char) : Bool :=
  inRanges casedRanges c.toNat

/-- The shift of the first run of `runs` that has `n`, if there is one. -/
def shiftOf? (runs : List (Nat × Nat × Nat × Int)) (n : Nat) : Option Int :=
  (runs.find? fun (first, last, step, _) =>
    first ≤ n && n ≤ last && (n - first) % step == 0).map fun (_, _, _, shift) => shift

/-- The one-character lower-case form of `c`, which is `c` itself if it has none. -/
def lowerChar (c : Char) : Char :=
  if c.toNat < 128 then c.toLower
  else match shiftOf? lowerRuns c.toNat with
    | some shift => Char.ofNat (c.toNat + shift).toNat
    | none => c

/-- Whether the first character of `text` that is not case-ignorable is cased. -/
def startsCased (text : List Char) : Bool :=
  ((text.dropWhile isCaseIgnorable).head?.map isCased).getD false

/-- Whether a capital sigma ends a word, given the text before it, read backwards, and after it. -/
def endsWord (before after : List Char) : Bool :=
  startsCased before && !startsCased after

/-- The lower-case form of the second text, given the first one before it, read backwards. -/
def lowerFrom : List Char → List Char → List Char
  | _, [] => []
  | before, c :: rest =>
    (if c = 'Σ' then [if endsWord before rest then 'ς' else 'σ']
      else if c = 'İ' then ['i', Char.ofNat 0x307]
      else [lowerChar c]) ++ lowerFrom (c :: before) rest

/-- The lower-case form of `text`. -/
def lower (text : List Char) : List Char :=
  lowerFrom [] text

end CodeBrief.Text
