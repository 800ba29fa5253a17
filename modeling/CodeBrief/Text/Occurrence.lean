/-
**Occurrences.**

Where a text contains another one, and how often.

* `occursIn` — whether it does at all.
* `countOf` — the number of occurrences, counted from the left without overlap.
-/

namespace CodeBrief.Text

/-- Whether `needle` occurs in a text. -/
def occursIn (needle : List Char) : List Char → Bool
  | [] => needle.isEmpty
  | c :: rest => needle.isPrefixOf (c :: rest) || occursIn needle rest

/-- The occurrences of `needle` in a text after its first `skip` characters, without overlap. -/
def countFrom (needle : List Char) : Nat → List Char → Nat
  | _, [] => 0
  | skip + 1, _ :: rest => countFrom needle skip rest
  | 0, c :: rest =>
    if needle.isPrefixOf (c :: rest) then 1 + countFrom needle (needle.length - 1) rest
    else countFrom needle 0 rest

/-- The number of occurrences of `needle`, which is not empty, in `text`, counted from the left
without overlap. -/
def countOf (needle text : List Char) : Nat :=
  countFrom needle 0 text

end CodeBrief.Text

namespace CodeBrief

/-- Whether `needle` occurs in `text`. -/
def Text.contains (text needle : String) : Bool :=
  occursIn needle.toList text.toList

end CodeBrief
