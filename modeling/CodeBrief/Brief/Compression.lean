/-
**Making briefs smaller.**

Six steps, each coarser than the one before, are applied one after another until the estimated
number of tokens is within the budget or no step is left. Files out of which something has been cut
are left alone by the steps that change texts. A run comes to nothing if the brief cannot be
measured, or if a number that has to be spelled, the budget or the complexity of a function, has too
many digits.

* `CompressionStep.apply` — one step; `CompressionStep.isPossible` — whether it can be taken.
* `Brief.compress` — the steps that a budget calls for.
* `Brief.withBudget` — the same if a budget calls for any.
-/

import CodeBrief.Brief.Basic
import CodeBrief.Brief.Prompt
import CodeBrief.Order
import CodeBrief.Pattern.Scan

namespace CodeBrief

open Pattern

/-! ### Texts -/

/-- Takes the text up to the first end of a block comment, and that. -/
def toBlockEnd : Reader Unit
  | [] => none
  | '*' :: '/' :: rest => some ((), rest)
  | _ :: rest => toBlockEnd rest

/-- A block comment. -/
def blockComment : Reader Unit := do
  literal "/*"
  toBlockEnd

/-- A comment up to the end of its line. -/
def lineComment : Reader Unit := do
  literal "//"
  let _ ← run (· != '\n')

/-- A text without its block comments and then without its line comments. -/
def withoutComments (text : List Char) : List Char :=
  replaceAll lineComment [] (replaceAll blockComment [] text)

/-- What is left of some blanks after their last line feed, if there is one. -/
def afterLastBreak? (gap : List Char) : Option (List Char) :=
  if gap.contains '\n' then some (gap.reverse.takeWhile (· != '\n')).reverse else none

/-- A line feed and the blanks after it up to the last line feed among them. -/
def blankLines : Reader Unit := do
  literal "\n"
  fun text =>
    (afterLastBreak? (text.takeWhile Text.isBlank)).map fun rest =>
      ((), rest ++ text.dropWhile Text.isBlank)

/-- Whether `c` is a blank within a line of ASCII text. -/
def isInlineSpace (c : Char) : Bool :=
  c == ' ' || c == '\t' || c.toNat == 11 || c.toNat == 12

/-- Blanks within a line. -/
def inlineSpaces : Reader Unit := do
  let _ ← runOf 1 isInlineSpace

/-- A text without blank lines and with single spaces. -/
def withoutWhitespace (text : List Char) : List Char :=
  replaceAll inlineSpaces [' '] (replaceAll blankLines ['\n'] text)

/-! ### Steps -/

/-- The steps by which briefs are made smaller. -/
inductive CompressionStep where
  /-- Leave out comments. -/
  | stripComments
  /-- Leave out blank lines and repeated blanks. -/
  | collapseWhitespace
  /-- Leave out the bodies of long functions. -/
  | summarizeFunctions
  /-- Leave out the bodies of classes. -/
  | dropClassBodies
  /-- Leave out bodies that occur before. -/
  | abstractDuplicates
  /-- Leave out the least relevant files. -/
  | dropLowRelevance
  deriving DecidableEq, Repr

/-- A text changed where nothing has been cut out of it. -/
def SelectedFile.changeText (change : List Char → List Char) (file : SelectedFile) : SelectedFile :=
  if file.summarized then file
  else { file with content := String.ofList (change file.content.toList) }

/-- The number of characters above which a body is left out. -/
def longBodyLength : Nat := 500

/-- A function without its body, if that is long. -/
def FunctionRecord.summarize (record : FunctionRecord) : FunctionRecord :=
  if longBodyLength < record.body.length then
    { record with
      body := "[Function body: " ++ intText record.body.length ++ " chars, complexity: " ++
        intText record.complexity ++ "]"
      summarized := true }
  else record

/-- Whether a function can be summarized: if its body is long, its complexity can be spelled. -/
def FunctionRecord.isSummarizable (record : FunctionRecord) : Bool :=
  record.body.length ≤ longBodyLength || Text.isSpellable record.complexity

/-- A class without its body. -/
def ClassRecord.dropBody (record : ClassRecord) : ClassRecord :=
  { record with
    body := ""
    summary := some ("Class with " ++ intText record.methods.length ++ " methods") }

/-- Functions without the bodies that occur before; `seen` holds the bodies so far with the keys of
the functions that have them. -/
def abstractFrom : (seen : List (String × String)) → List FunctionRecord → List FunctionRecord
  | _, [] => []
  | seen, record :: rest =>
    if record.body.isEmpty || record.summarized then record :: abstractFrom seen rest
    else match seen.lookup record.body with
      | none => record :: abstractFrom (seen ++ [(record.body, record.key)]) rest
      | some key =>
        { record with body := "[Same body as " ++ key ++ "]", summarized := true } ::
          abstractFrom seen rest

/-- The number of files that are kept of `count`: three fifths, rounded down. -/
def keptFiles (count : Nat) : Nat :=
  3 * count / 5

/-- A brief without its least relevant files, and without what is known about them. -/
def Brief.dropFiles (brief : Brief) : Brief :=
  if brief.files.isEmpty then brief
  else
    let kept := (sortBy (fun left right => right.relevance ≤ left.relevance) brief.files).take
      (keptFiles brief.files.length)
    { brief with
      files := kept
      dependencies := brief.dependencies.filter fun path _ =>
        (kept.map SelectedFile.path).contains path }

namespace CompressionStep

/-- The steps in their order. -/
def all : List CompressionStep :=
  [.stripComments, .collapseWhitespace, .summarizeFunctions, .dropClassBodies, .abstractDuplicates,
    .dropLowRelevance]

/-- The name of a step. -/
def name : CompressionStep → String
  | .stripComments => "strip_comments"
  | .collapseWhitespace => "collapse_whitespace"
  | .summarizeFunctions => "summarize_functions"
  | .dropClassBodies => "drop_class_bodies"
  | .abstractDuplicates => "abstract_duplicates"
  | .dropLowRelevance => "drop_low_relevance"

/-- Whether a step can be taken: what it has to spell can be spelled. -/
def isPossible (brief : Brief) : CompressionStep → Bool
  | .summarizeFunctions => brief.functions.all FunctionRecord.isSummarizable
  | _ => true

/-- A brief after a step that can be taken. -/
def apply (brief : Brief) : CompressionStep → Brief
  | .stripComments =>
    { brief with files := brief.files.map (SelectedFile.changeText withoutComments) }
  | .collapseWhitespace =>
    { brief with files := brief.files.map (SelectedFile.changeText withoutWhitespace) }
  | .summarizeFunctions =>
    { brief with functions := brief.functions.map FunctionRecord.summarize }
  | .dropClassBodies => { brief with classes := brief.classes.map ClassRecord.dropBody }
  | .abstractDuplicates => { brief with functions := abstractFrom [] brief.functions }
  | .dropLowRelevance => brief.dropFiles

end CompressionStep

/-! ### The pipeline -/

/-- Why a brief cannot be brought to a size. -/
inductive SizeError where
  /-- It cannot be measured: what is remembered is nested too deep to be written. -/
  | unwritable
  /-- A number has too many digits to be spelled. -/
  | unspellable
  deriving DecidableEq, Repr

/-- The wording of an error. -/
def SizeError.message : SizeError → String
  | .unwritable => "Error serializing to JSON: ValueError: Maximum serialization depth exceeded"
  | .unspellable =>
    s!"Exceeds the limit ({Text.digitLimit} digits) for integer string conversion; " ++
      "use sys.set_int_max_str_digits() to increase the limit"

namespace Brief

/-- A brief after the steps that are needed to come within a budget have been applied and noted. -/
def applySteps (budget : Int) (brief : Brief) : List CompressionStep → Except SizeError Brief
  | [] => .ok brief
  | step :: rest =>
    if (brief.tokens : Int) ≤ budget then .ok brief
    else if step.isPossible brief then
      let smaller := step.apply brief
      applySteps budget
        { smaller with compressionSteps := smaller.compressionSteps ++ [step.name] } rest
    else .error .unspellable

/-- A brief made smaller by the first of `steps` that a budget calls for, with the figures about its
size. The brief is measured and the budget is spelled before the first step; whether a brief can be
measured no step changes. -/
def compressBy (steps : List CompressionStep) (brief : Brief) (budget : Int) :
    Except SizeError Brief :=
  if !brief.isWritable then .error .unwritable
  else if !Text.isSpellable budget then .error .unspellable
  else (applySteps budget brief steps).map fun smaller =>
    { smaller with
      estimatedTokens := smaller.tokens
      overBudget := budget < smaller.tokens }

/-- A brief made smaller by the steps that a budget calls for. -/
def compress (brief : Brief) (budget : Int) : Except SizeError Brief :=
  brief.compressBy CompressionStep.all budget

/-- A brief with a budget noted in it, and its own size. -/
def measured (brief : Brief) (budget : Int) : Brief :=
  { brief with tokenBudget := budget, estimatedTokens := brief.tokens }

/-- A brief with a budget: made smaller if it takes more tokens than that. -/
def withBudget (brief : Brief) (budget : Int) : Except SizeError Brief :=
  if !brief.isWritable then .error .unwritable
  else if budget < brief.tokens then (brief.measured budget).compress budget
  else .ok (brief.measured budget)

end Brief

end CodeBrief
