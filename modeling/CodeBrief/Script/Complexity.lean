/-
**Complexity.**

A count of the branches of a script text: one, and one more for every word that branches, for every
`&&` and `||`, and for every question mark.

* `complexity` — the count.
* `wordsOf` — the maximal runs of word characters.
-/

import CodeBrief.Text.Blank
import CodeBrief.Text.Occurrence
import CodeBrief.Text.WordChar

namespace CodeBrief.Script

/-- The words that branch. -/
def branchWords : List String := ["if", "else", "for", "while", "case", "catch"]

/-- The maximal runs of word characters of a text, with empty ones between other characters. -/
def wordsOf (text : List Char) : List (List Char) :=
  Text.pieces (fun c => !Text.isWord c) text

/-- The number of words that branch. -/
def branchCount (text : List Char) : Nat :=
  (wordsOf text).countP fun word => branchWords.contains (String.ofList word)

/-- The number of doubled ampersands and bars, from the left and without overlap. -/
def operatorCount : List Char → Nat
  | '&' :: '&' :: rest => 1 + operatorCount rest
  | '|' :: '|' :: rest => 1 + operatorCount rest
  | _ :: rest => operatorCount rest
  | [] => 0

/-- The complexity of a text. -/
def complexityOf (text : List Char) : Nat :=
  1 + branchCount text + operatorCount text + text.count '?'

/-- The complexity of a script. -/
def complexity (code : String) : Nat :=
  complexityOf code.toList

end CodeBrief.Script
