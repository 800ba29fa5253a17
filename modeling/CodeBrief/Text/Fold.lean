/-
**Letters whatever their case.**

An ASCII letter is matched whatever its case by itself, by its capital and by the few characters
beyond ASCII that fold to it: the dotted capital and the dotless small i for i, the long s for s and
the Kelvin sign for k.

* `foldsTo` — the test for one character.
* `mentions` — whether a text contains an ASCII word, whatever the case.
-/

namespace CodeBrief.Text

/-- Whether `c` is `letter` whatever its case, for `letter` a lower-case ASCII character. -/
def foldsTo (letter c : Char) : Bool :=
  c.toLower == letter || (letter == 'i' && (c == 'ı' || c == 'İ')) || (letter == 's' && c == 'ſ') ||
    (letter == 'k' && c.toNat == 0x212A)

/-- Whether `text` begins with `word` whatever the case. -/
def foldPrefix : List Char → List Char → Bool
  | [], _ => true
  | _ :: _, [] => false
  | letter :: word, c :: text => foldsTo letter c && foldPrefix word text

/-- Whether `word` occurs in `text` whatever the case. -/
def mentions (word : List Char) : List Char → Bool
  | [] => word.isEmpty
  | c :: text => foldPrefix word (c :: text) || mentions word text

end CodeBrief.Text
