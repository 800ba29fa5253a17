/-
**Selecting what goes into a brief.**

The scored items are visited from the highest score down, ties in the order of the scores, until the
working budget is used up. A function or class is taken if it fits; a file that does not fit is cut
down to what is left.

* `summarize` — a text cut down to a number of tokens, with a marker in the place of its middle.
* `workingBudget` — the share of a budget that is not reserved.
* `Selection.choose` — the selection for some scores.
-/

import CodeBrief.Brief.Basic
import CodeBrief.Order
import CodeBrief.Query.Relevance

namespace CodeBrief

/-! ### Cutting a text down -/

/-- What stands for `omitted` characters that have been cut out. -/
def omissionMarker (omitted : Nat) : List Char :=
  "\n\n[... ".toList ++ Text.spell omitted ++ " characters omitted ...]\n\n".toList

/-- `content` cut down to `budget` tokens: as it is if it fits, else its two ends around a
marker. -/
def summarizeChars (content : List Char) (budget : Int) : List Char :=
  let room := budget.toNat * charsPerToken
  if content.length ≤ room then content
  else
    let half := room / 2
    content.take half ++ omissionMarker (content.length - 2 * half) ++
      content.drop (content.length - half)

/-- `content` cut down to `budget` tokens. -/
def summarize (content : String) (budget : Int) : String :=
  String.ofList (summarizeChars content.toList budget)

/-! ### Budgets -/

/-- Why a budget has no working part. -/
inductive BudgetError where
  /-- The budget is too large for a floating-point number. -/
  | tooLarge
  /-- The working part is infinite. -/
  | infinite
  /-- The working part is not a number. -/
  | notANumber
  deriving DecidableEq, Repr

/-- The wording of an error. -/
def BudgetError.message : BudgetError → String
  | .tooLarge => "int too large to convert to float"
  | .infinite => "cannot convert float infinity to integer"
  | .notANumber => "cannot convert float NaN to integer"

/-- The part of `maxTokens` that is left once the share `reserve` is set aside, as the nearest whole
number, a tie to the even one. -/
def workingBudget (reserve : Binary64) (maxTokens : Int) : Except BudgetError Int :=
  match Binary64.ofInt? maxTokens with
  | none => .error .tooLarge
  | some tokens =>
    match (tokens.mul ((Binary64.ofNat 1).sub reserve)).roundToInt with
    | .ok budget => .ok budget
    | .error .infinite => .error .infinite
    | .error .nan => .error .notANumber

/-! ### Choosing -/

/-- What has been chosen, in the order in which it was. -/
structure Selection where
  /-- The files. -/
  files : List SelectedFile := []
  /-- The functions. -/
  functions : List FunctionRecord := []
  /-- The classes. -/
  classes : List ClassRecord := []
  /-- The tokens that it takes. -/
  tokensUsed : Int := 0
  /-- The tokens that it may take. -/
  tokenBudget : Int := 0
  deriving DecidableEq, Repr

namespace Selection

/-- What a key of a score stands for. -/
inductive Item where
  /-- A file and its text. -/
  | file (path content : String)
  /-- A function. -/
  | function (record : FunctionRecord)
  /-- A class. -/
  | «class» (record : ClassRecord)
  /-- Nothing that is indexed. -/
  | unknown
  deriving DecidableEq, Repr

/-- The text after `start`, if `key` begins with it. -/
def after? (start key : String) : Option String :=
  (Pattern.dropPrefix? start.toList key.toList).map String.ofList

/-- What `key` stands for. -/
def itemOf (index : Index) (key : String) : Item :=
  match after? Relevance.functionPrefix key with
  | some inner => match index.functions.get? inner with
    | some record => .function record
    | none => .unknown
  | none => match after? Relevance.classPrefix key with
    | some inner => match index.classes.get? inner with
      | some record => .class record
      | none => .unknown
    | none => match index.files.get? key with
      | some content => .file key content
      | none => .unknown

/-- A selection with a function more. -/
def addFunction (selection : Selection) (record : FunctionRecord) (tokens : Nat) : Selection :=
  { selection with
    functions := selection.functions ++ [record], tokensUsed := selection.tokensUsed + tokens }

/-- A selection with a class more. -/
def addClass (selection : Selection) (record : ClassRecord) (tokens : Nat) : Selection :=
  { selection with
    classes := selection.classes ++ [record], tokensUsed := selection.tokensUsed + tokens }

/-- A selection with a file more. -/
def addFile (selection : Selection) (file : SelectedFile) : Selection :=
  { selection with
    files := selection.files ++ [file]
    tokensUsed := selection.tokensUsed + tokensOf file.content.toList }

/-- Whether `tokens` more tokens fit. -/
def fits (selection : Selection) (tokens : Nat) : Bool :=
  selection.tokensUsed + tokens ≤ selection.tokenBudget

/-- A selection after an item has been offered. -/
def offer (selection : Selection) (score : Int) : Item → Selection
  | .function record =>
    let tokens := recordTokens record.toJson
    if selection.fits tokens then selection.addFunction record tokens else selection
  | .class record =>
    let tokens := recordTokens record.toJson
    if selection.fits tokens then selection.addClass record tokens else selection
  | .file path content =>
    if selection.fits (tokensOf content.toList) then
      selection.addFile ⟨path, content, score, false⟩
    else
      selection.addFile
        ⟨path, summarize content (selection.tokenBudget - selection.tokensUsed), score, true⟩
  | .unknown => selection

/-- A selection after the items of some scores have been offered one after another, until the budget
is used up. -/
def offerAll (index : Index) (selection : Selection) : List (String × Int) → Selection
  | [] => selection
  | (key, score) :: rest =>
    if selection.tokenBudget ≤ selection.tokensUsed then selection
    else offerAll index (selection.offer score (itemOf index key)) rest

/-- Scores from the highest down, ties in their order. -/
def ranked (scores : List (String × Int)) : List (String × Int) :=
  sortBy (fun left right => right.2 ≤ left.2) scores

/-- The selection for some scores within a working budget. -/
def choose (index : Index) (scores : List (String × Int)) (budget : Int) : Selection :=
  offerAll index { tokenBudget := budget } (ranked scores)

end Selection

end CodeBrief
