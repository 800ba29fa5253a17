/-
**Comments and test cases in script text.**

Four kinds of comments are of interest: lines marked as something to do, to fix or to note, and
documentation blocks.

* `comments` — the comments, one kind after another.
* `testCases` — the test cases.

A mark may be followed by a colon and blanks, which can reach over line breaks; the text of the
comment is the rest of the line that they end on.
-/

import CodeBrief.Pattern.Scan

namespace CodeBrief.Script

open CodeBrief.Pattern

/-- The kinds of comments, in the order in which they are listed. -/
inductive CommentKind where
  /-- Something to do. -/
  | todo
  /-- Something to fix. -/
  | fixme
  /-- Something to note. -/
  | note
  /-- A documentation block. -/
  | documentation
  deriving DecidableEq, Repr

/-- The mark of a kind of comments, which is also its name. -/
def CommentKind.name : CommentKind → String
  | .todo => "TODO"
  | .fixme => "FIXME"
  | .note => "NOTE"
  | .documentation => "JSDoc"

/-- A comment. -/
structure Comment where
  /-- Its kind. -/
  kind : CommentKind
  /-- Its text: stripped for a marked line, with its delimiters for a block. -/
  text : String
  /-- The number of the line on which it begins, counted by line feeds from one. -/
  line : Nat
  deriving DecidableEq, Repr

/-- The rest of a line that is not empty. -/
def restOfLine : Reader (List Char) :=
  runOf 1 (· != '\n')

/-- The last character of the blanks `gap` that does not end a line, with those after it. -/
def lastBlankOfLine? (gap : List Char) : Option (List Char) :=
  let breaks := gap.reverse.takeWhile (· == '\n')
  match gap.reverse.dropWhile (· == '\n') with
  | [] => none
  | c :: _ => some (c :: breaks)

/-- The text of a marked comment after its mark and colon: blanks, then the rest of a line. Where
only blanks are left, the text is their last one that does not end a line. -/
def markedText : Reader (List Char) := fun text =>
  match text.dropWhile Text.isBlank with
  | [] => (lastBlankOfLine? text).bind restOfLine
  | rest => restOfLine rest

/-- A marked comment. The colon after the mark belongs to the text if nothing else is left for
it. -/
def marked (mark : String) : Reader (List Char) := do
  literal "//"
  blanks
  literal mark
  (do literal ":"; markedText) <|> markedText

/-- The text up to the first end of a block comment, with it. -/
def throughBlockEnd : Reader (List Char)
  | [] => none
  | '*' :: '/' :: rest => some (['*', '/'], rest)
  | c :: rest => (throughBlockEnd rest).map fun (inner, after) => (c :: inner, after)

/-- A documentation block. -/
def documentationBlock : Reader (List Char) := do
  literal "/**"
  let inner ← throughBlockEnd
  return "/**".toList ++ inner

/-- The comments of one kind. -/
def commentsOf (kind : CommentKind) (text : List Char) : List Comment :=
  let reader := match kind with
    | .documentation => documentationBlock
    | _ => marked kind.name
  (allMatches (fun _ => reader) text).map fun hit =>
    { kind
      text := String.ofList (if kind = .documentation then hit.value else Text.strip hit.value)
      line := hit.before.count '\n' + 1 }

/-- The comments of a text, one kind after another. -/
def comments (text : List Char) : List Comment :=
  [CommentKind.todo, .fixme, .note, .documentation].flatMap fun kind => commentsOf kind text

/-- A test case. -/
structure TestCase where
  /-- Its name. -/
  name : String
  /-- The level at which it tests. -/
  level : String
  deriving DecidableEq, Repr

/-- A test case up to the quote that closes its name. -/
def testHead : Reader String := do
  let _ ← oneOf ["test", "it", "describe"]
  blanks
  literal "("
  blanks
  quotedText

/-- The test cases of a text; each counts as a unit test. -/
def testCases (text : List Char) : List TestCase :=
  (allMatches (atWordStart testHead) text).map fun hit => ⟨hit.value, "unit"⟩

end CodeBrief.Script
