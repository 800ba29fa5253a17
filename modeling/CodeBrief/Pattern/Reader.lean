/-
**Readers of script text.**

A reader takes something from the head of a text, or fails. Readers are combined one after another;
`first <|> second` tries the second one from the same place if the first one fails. Every reader
here takes as much as it can, which loses nothing: in the patterns that are built from them, what
follows a run never begins with a character of the run.

* `literal`, `oneOf` — given texts.
* `blanks`, `someBlanks`, `word` — runs of blanks and of word characters.
* `enclosed`, `quotedText` — what stands between two brackets or two quotes.
-/

import CodeBrief.Text.Blank
import CodeBrief.Text.WordChar

namespace CodeBrief.Pattern

/-- What takes an `α` from the head of a text and leaves the rest, or fails. -/
abbrev Reader (α : Type) := StateT (List Char) Option α

/-- The text after `expected`, if the given text begins with it. -/
def dropPrefix? : (expected text : List Char) → Option (List Char)
  | [], text => some text
  | _ :: _, [] => none
  | e :: expected, c :: text => if c = e then dropPrefix? expected text else none

/-- Takes the text `expected`. -/
def literal (expected : String) : Reader Unit := fun text =>
  (dropPrefix? expected.toList text).map fun rest => ((), rest)

/-- Takes the first of `choices` that the text begins with. -/
def oneOf : (choices : List String) → Reader String
  | [] => fun _ => none
  | choice :: others => fun text =>
    match dropPrefix? choice.toList text with
    | some rest => some (choice, rest)
    | none => oneOf others text

/-- Takes one character that satisfies `test`. -/
def charWhere (test : Char → Bool) : Reader Char
  | [] => none
  | c :: rest => if test c then some (c, rest) else none

/-- Takes the longest run of characters that satisfy `test`, which may be empty. -/
def run (test : Char → Bool) : Reader (List Char) := fun text =>
  some (text.takeWhile test, text.dropWhile test)

/-- Takes the longest run of at least `least` characters that satisfy `test`. -/
def runOf (least : Nat) (test : Char → Bool) : Reader (List Char) := fun text =>
  let taken := text.takeWhile test
  if taken.length < least then none else some (taken, text.dropWhile test)

/-- Takes the blanks at the head, which may be none. -/
def blanks : Reader Unit := do
  let _ ← run Text.isBlank

/-- Takes the blanks at the head, of which there must be one. -/
def someBlanks : Reader Unit := do
  let _ ← runOf 1 Text.isBlank

/-- Takes a word. -/
def word : Reader String := do
  return String.ofList (← runOf 1 Text.isWord)

/-- Takes `opening`, everything up to the first `closing`, and that; gives what stands between. -/
def enclosed (opening closing : Char) : Reader (List Char) := do
  let _ ← charWhere (· == opening)
  let inner ← run (· != closing)
  let _ ← charWhere (· == closing)
  return inner

/-- Whether `c` is an apostrophe or a double quote. -/
def isQuote (c : Char) : Bool :=
  c == '\'' || c == '"'

/-- Takes a quote, at least one character that is none, and a quote; gives what stands between. -/
def quotedText : Reader String := do
  let _ ← charWhere isQuote
  let inner ← runOf 1 (!isQuote ·)
  let _ ← charWhere isQuote
  return String.ofList inner

/-- Succeeds, and takes nothing, unless the next character satisfies `test`. -/
def unlessNext (test : Char → Bool) : Reader Unit := fun text =>
  match text with
  | [] => some ((), text)
  | c :: _ => if test c then none else some ((), text)

end CodeBrief.Pattern
