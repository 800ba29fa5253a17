/-
**Risky constructs in script text.**

Each line of a script is searched for constructs that often open a hole: evaluated strings,
functions built from strings, markup assigned or written as text, and credentials spelled out.

* `hazards` — the constructs and how grave they are, in the order in which a line is searched.
* `hazardsIn` — the findings of a text with their line numbers.
-/

import CodeBrief.Pattern.Scan
import CodeBrief.Severity
import CodeBrief.Text.Fold
import CodeBrief.Text.Line

namespace CodeBrief.Script

open CodeBrief.Pattern

/-- A construct to look for. -/
structure Hazard where
  /-- Its name in findings. -/
  name : String
  /-- How grave it is. -/
  severity : Severity
  /-- Whether a line contains it. -/
  isIn : List Char → Bool

/-- `name` called where a word begins. -/
def callOf (name : String) : Finder Unit :=
  atWordStart do
    literal name
    blanks
    literal "("

/-- A function built from a string. -/
def functionConstructor : Finder Unit :=
  atWordStart do
    literal "new"
    someBlanks
    literal "Function"
    blanks
    literal "("

/-- Markup assigned as text. -/
def markupAssignment : Finder Unit := fun _ => do
  literal ".innerHTML"
  blanks
  literal "="
  unlessNext (· == '=')

/-- Takes the letters `name` whatever their case. -/
def folded (name : String) : Reader Unit := fun text =>
  if Text.foldPrefix name.toList text then some ((), text.drop name.length) else none

/-- The names under which credentials are kept. -/
def credentialNames : List String :=
  ["password", "passwd", "secret", "api_key", "apikey", "token"]

/-- Takes a colon or an equals sign, and a quoted text of at least four characters. -/
def quotedValue : Reader Unit := do
  blanks
  let _ ← charWhere fun c => c == ':' || c == '='
  blanks
  let _ ← charWhere isQuote
  let _ ← runOf 4 (!isQuote ·)
  let _ ← charWhere isQuote

/-- A credential spelled out. -/
def credential : Finder Unit :=
  atWordStart (credentialNames.foldr (fun name others => (do folded name; quotedValue) <|> others)
    fun _ => none)

/-- The constructs in the order in which a line is searched. -/
def hazards : List Hazard :=
  [⟨"Use of eval", .high, occurs (callOf "eval")⟩,
    ⟨"Dynamic Function constructor", .high, occurs functionConstructor⟩,
    ⟨"Unsafe innerHTML assignment", .medium, occurs markupAssignment⟩,
    ⟨"document.write", .medium, occurs (callOf "document.write")⟩,
    ⟨"Hardcoded credential", .high, occurs credential⟩]

/-- A risky construct found in a file. -/
structure SecurityFinding where
  /-- The name of the construct. -/
  kind : String
  /-- The path of the file. -/
  path : String
  /-- The number of the line, counted from one. -/
  line : Int
  /-- How grave it is. -/
  severity : Severity
  deriving DecidableEq, Repr

/-- The findings of the lines `lines` of the file `path`, numbered from `number` on. -/
def hazardsFrom (path : String) (number : Nat) : (lines : List (List Char)) → List SecurityFinding
  | [] => []
  | line :: rest =>
    ((hazards.filter fun hazard => hazard.isIn line).map fun hazard =>
      ⟨hazard.name, path, number, hazard.severity⟩) ++ hazardsFrom path (number + 1) rest

/-- The findings of the text of the file `path`. -/
def hazardsIn (path : String) (text : List Char) : List SecurityFinding :=
  hazardsFrom path 1 (Text.lines text)

end CodeBrief.Script
