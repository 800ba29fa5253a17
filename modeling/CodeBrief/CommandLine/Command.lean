/-
**Commands.**

* `Command` — what the program can be asked to do.
* `Request.read` — what some arguments ask for, or why they are refused.
-/

import CodeBrief.CommandLine.Arguments
import CodeBrief.Text.Blank

namespace CodeBrief.CommandLine

/-- What is done with the settings. -/
inductive SettingsAction where
  /-- Set the value under a key. -/
  | set (key value : Option String)
  /-- Show the value under a key. -/
  | get (key : Option String)
  /-- Show all settings. -/
  | show
  deriving DecidableEq, Repr

/-- What a brief is asked for. -/
structure BriefRequest where
  /-- The query. -/
  query : String
  /-- The number of tokens that the brief should have at most. -/
  budget : Option Int := none
  /-- Whether the analysis is left out. -/
  withoutAnalysis : Bool := false
  /-- Whether the memory is left out. -/
  withoutMemory : Bool := false
  /-- The area that the query is about. -/
  focus : Option String := none
  /-- Whether the brief is shown as JSON. -/
  asJson : Bool := false
  deriving DecidableEq, Repr

/-- What the program can be asked to do in a project. -/
inductive Command where
  /-- Write settings. -/
  | init (budget : Option Int)
  /-- Show figures about the project. -/
  | analyze
  /-- Build a brief. -/
  | brief (request : BriefRequest)
  /-- Report on the health of the project. -/
  | health
  /-- Show or change settings. -/
  | settings (action : SettingsAction)
  deriving DecidableEq, Repr

/-- What the program is asked for. -/
inductive Request where
  /-- Its version. -/
  | version
  /-- How a command is called. -/
  | help (form : Form)
  /-- Nothing. -/
  | nothing
  /-- A command for the project at a path, or for that of the current directory. -/
  | run (path : Option String) (command : Command)
  deriving DecidableEq, Repr

/-! ### Forms -/

/-- The switch for the path of the project. -/
def pathSwitch : Switch :=
  { long := "--path", short := some 'p', operand := some "TEXT"
    about := "Path to the project root." }

/-- The switch for the number of tokens, which is the default for later briefs or counts for one. -/
def budgetSwitch (about : String) : Switch :=
  { long := "--budget", short := some 'b', operand := some "INTEGER RANGE"
    about := about ++ "  [x>=1]" }

/-- How the program is called. -/
def programForm : Form :=
  { words := "main"
    operands := ["COMMAND", "[ARGS]..."]
    switches :=
      [{ long := "--version", about := "Show the version and exit." },
        { long := "--verbose", short := some 'v', about := "Show log output." }]
    mixed := false
    about := ["repoctx - relevance-ranked, budgeted context from a source repository."]
    commands :=
      [("analyze", "Analyze the repository and show statistics."),
        ("config", "Manage repoctx configuration."),
        ("context", "Build a budgeted context for a natural-language query."),
        ("health", "Report project health: strengths, weaknesses, opportunities,..."),
        ("init", "Write a default configuration for a repository.")] }

/-- How the command that writes settings is called. -/
def initForm : Form :=
  { words := "main init", switches := [pathSwitch, budgetSwitch "Default token budget."]
    about := ["Write a default configuration for a repository."] }

/-- How the command that shows figures is called. -/
def analyzeForm : Form :=
  { words := "main analyze", switches := [pathSwitch]
    about := ["Analyze the repository and show statistics."] }

/-- How the command that builds a brief is called. -/
def briefForm : Form :=
  { words := "main context"
    operands := ["QUERY"]
    switches :=
      [pathSwitch, budgetSwitch "Token budget.",
        { long := "--no-analysis", about := "Leave out the analysis block." },
        { long := "--no-memory", about := "Leave out the memory block." },
        { long := "--focus", short := some 'f', operand := some "TEXT"
          about := "Area of the codebase to focus on." },
        { long := "--json", about := "Print the context as JSON." }]
    about :=
      ["Build a budgeted context for a natural-language query.", "", "Examples:", "",
        "    repoctx context \"fix the login bug in auth.js\"", "",
        "    repoctx context \"refactor the user service\" --budget 4000 --json"] }

/-- How the command that reports on health is called. -/
def healthForm : Form :=
  { words := "main health", switches := [pathSwitch]
    about := ["Report project health: strengths, weaknesses, opportunities, risks."] }

/-- The operand that says what is done with the settings, as it is shown. -/
def actionOperand : String := "\x7bset|get|show\x7d"

/-- The words for what is done with the settings. -/
def actionWords : List String := ["set", "get", "show"]

/-- How the command for settings is called. -/
def settingsForm : Form :=
  { words := "main config", operands := [actionOperand, "[KEY]", "[VALUE]"]
    switches := [pathSwitch], about := ["Manage repoctx configuration."] }

/-! ### Values -/

/-- A text without a sign in front, and whether that is a minus sign. -/
def withoutSign : List Char → Bool × List Char
  | '-' :: rest => (true, rest)
  | '+' :: rest => (false, rest)
  | text => (false, text)

/-- The greatest number of digits of a number. -/
def maxDigits : Nat := 4300

/-- The whole number that a text spells: digits of any script with single underscores among them, a
sign in front, and blanks around it. -/
def wholeNumber? (text : String) : Option Int :=
  let (negative, unsigned) := withoutSign (Text.strip text.toList)
  let groups := Text.pieces (· == '_') unsigned
  let digits := groups.flatten.map Text.digitValue?
  if groups.any List.isEmpty || digits.any Option.isNone || maxDigits < digits.length then none
  else
    let value : Int := (digits.foldl (fun sum digit => sum * 10 + digit.getD 0) 0 : Nat)
    some (if negative then -value else value)

/-- The number of tokens that is given. -/
def readBudget (arguments : Arguments) : Except Misuse (Option Int) :=
  let switch := budgetSwitch ""
  match arguments.value? switch.long with
  | none => .ok none
  | some text =>
    match wholeNumber? text with
    | none => .error (.notWhole switch text)
    | some budget => if budget < 1 then .error (.notPositive switch budget) else .ok (some budget)

/-- Refuses operands beyond the first `count`. -/
def refuseMore (count : Nat) (arguments : Arguments) : Except Misuse Unit :=
  if (arguments.operands.drop count).isEmpty then .ok ()
  else .error (.unexpected (arguments.operands.drop count))

/-! ### Commands -/

/-- The command that writes settings. -/
def readInit (arguments : Arguments) : Except Misuse Command := do
  let budget ← readBudget arguments
  refuseMore 0 arguments
  return .init budget

/-- The command that builds a brief. -/
def readBrief (arguments : Arguments) : Except Misuse Command := do
  let budget ← readBudget arguments
  match arguments.operands.head? with
  | none => .error (.missingOperand "QUERY" [])
  | some query =>
    refuseMore 1 arguments
    return .brief
      { query
        budget
        withoutAnalysis := arguments.has "--no-analysis"
        withoutMemory := arguments.has "--no-memory"
        focus := arguments.value? "--focus"
        asJson := arguments.has "--json" }

/-- The command for settings. -/
def readSettings (arguments : Arguments) : Except Misuse Command := do
  let key := arguments.operands[1]?
  match arguments.operands.head? with
  | none => .error (.missingOperand actionOperand actionWords)
  | some word =>
    let action ← match word with
      | "set" => .ok (SettingsAction.set key arguments.operands[2]?)
      | "get" => .ok (SettingsAction.get key)
      | "show" => .ok SettingsAction.show
      | word => .error (.notAmong actionOperand word actionWords)
    refuseMore 3 arguments
    return .settings action

/-- A command that takes no operands. -/
def readPlain (command : Command) (arguments : Arguments) : Except Misuse Command := do
  refuseMore 0 arguments
  return command

/-- The commands under their names: how they are called, and how their arguments are read. -/
def commands : List (String × Form × (Arguments → Except Misuse Command)) :=
  [("init", initForm, readInit), ("analyze", analyzeForm, readPlain .analyze),
    ("context", briefForm, readBrief), ("health", healthForm, readPlain .health),
    ("config", settingsForm, readSettings)]

namespace Request

/-- What the arguments of a command ask for. -/
def readCommand (form : Form) (make : Arguments → Except Misuse Command)
    (arguments : List String) : Except Misuse Request := do
  let arguments ← form.read arguments
  if arguments.has Form.help.long then return .help form
  let command ← make arguments
  return .run (arguments.value? pathSwitch.long) command

/-- What the switches of the program ask for before any command. -/
def ofSwitches? (given : List Given) : Option Request :=
  (given.find? fun given => given.name != "--verbose").map fun given =>
    if given.name == "--version" then .version else .help programForm

/-- What a name and the arguments behind it ask for. A name that is no command is read as a switch
if it looks like one. -/
def readNamed (name : String) (rest : List String) : Except Refusal Request :=
  match commands.lookup name with
  | some (form, make) => (readCommand form make rest).mapError (⟨form, ·⟩)
  | none => match programForm.read (name :: rest) with
    | .error reason => .error ⟨programForm, reason⟩
    | .ok inner => match ofSwitches? inner.given with
      | some request => .ok request
      | none => .error ⟨programForm, .unknownCommand name (closest name (commands.map Prod.fst))⟩

/-- What some arguments ask for, or why they are refused. -/
def read (arguments : List String) : Except Refusal Request :=
  if arguments.isEmpty then .ok .nothing
  else match programForm.read arguments with
    | .error reason => .error ⟨programForm, reason⟩
    | .ok outer => match ofSwitches? outer.given, outer.operands with
      | some request, _ => .ok request
      | none, [] => .error ⟨programForm, .missingCommand⟩
      | none, name :: rest => readNamed name rest

end Request

end CodeBrief.CommandLine
