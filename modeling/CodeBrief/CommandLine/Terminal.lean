/-
**Carrying out requests.**

A request is carried out in a file tree, which it may change, and shows text on a terminal. It ends
with an exit code, or with a failure that the program does not handle.

* `Terminal` — the tree and what has been shown so far.
* `carryOut` — the terminal after a request, and how the request ends.
-/

import CodeBrief.CommandLine.Command
import CodeBrief.Console.Report
import CodeBrief.Session.Basic
import CodeBrief.Settings.File
import CodeBrief.Settings.Report

namespace CodeBrief.CommandLine

open Console (Notice Line)

/-- Where requests are carried out. -/
structure Terminal where
  /-- The number of cells in a line. -/
  width : Nat
  /-- The project to which the current directory belongs unless another one is found: that of the
  whole tree. -/
  root : ProjectRoot
  /-- The files. -/
  tree : FileTree
  /-- The number of lists and objects that may lie within each other where JSON is read. -/
  room : Nat := Json.usualRoom
  /-- The time that loading takes, as it is shown. -/
  elapsed : String := "0.0"
  /-- What has been shown. -/
  output : String := ""

/-- A failure that the program does not handle. -/
inductive Failure where
  /-- A text with markup cannot be shown. -/
  | markup (problem : Markup.Problem)
  /-- The settings of a project cannot be loaded. -/
  | load (root : ProjectRoot) (error : Settings.LoadError)
  /-- The settings of a project cannot be saved. -/
  | save (root : ProjectRoot) (error : Settings.SaveError)
  /-- A value for a setting has a number with too many digits. -/
  | value (error : Json.ReadError)
  /-- A project cannot be analysed. -/
  | analysis (root : ProjectRoot) (error : AnalysisError)
  /-- The name of a project cannot be shown. -/
  | name (error : CodeText.EncodeError)
  /-- There is no brief. -/
  | brief (error : BriefError)
  /-- The links on the way to a path lead back to themselves. -/
  | endlessLinks (path : String)
  /-- A name on the way to a path is too long. -/
  | overlong (path : String)
  /-- A path holds the character that ends paths. -/
  | nullInPath
  deriving Repr

/-- The wording of settings that cannot be loaded. -/
def loadMessage (root : ProjectRoot) : Settings.LoadError → String
  | .undecodable error => error.message
  | .isDirectory => Settings.Obstacle.isDirectory.message (Settings.shownPath root)
  | .overlong => Settings.Obstacle.overlong.message (Settings.shownPath root)
  | .endless => "No end of file: " ++ Settings.shownPath root
  | .refused => Settings.Obstacle.refused.message (Settings.shownPath root)
  | .unreadable (.notJson error) => error.message
  | .unreadable (.notObject _) => "Settings are not an object: " ++ Settings.shownPath root
  | .unreadable (.invalid _) => "Settings are not valid: " ++ Settings.shownPath root

/-- The wording of a project that cannot be analysed. -/
def analysisMessage (root : ProjectRoot) : AnalysisError → String
  | .loader failure => failure.reason
  | .manifest problem => problem.message Manifest.fileName
  | .ignoreFile error => error.message root.path

/-- The wording of a failure. -/
def Failure.message : Failure → String
  | .markup problem => problem.message
  | .load root error => loadMessage root error
  | .save root error => error.message root
  | .value error => error.message
  | .analysis root error => analysisMessage root error
  | .name error => error.message
  | .brief error => error.message
  | .endlessLinks path => "Symlink loop from " ++ String.ofList (Text.quoted path.toList)
  | .overlong path => FileTree.overlongMessage path
  | .nullInPath => "embedded null byte"

/-- How a request ends early. -/
inductive Stop where
  /-- With an exit code. -/
  | exit (code : Nat)
  /-- With a failure. -/
  | failure (failure : Failure)
  deriving Repr

/-- A step of carrying out a request. -/
abbrev Action := ExceptT Stop (StateM Terminal)

/-! ### Showing text -/

/-- Shows a text as it is. -/
def write (text : String) : Action Unit :=
  modify fun terminal => { terminal with output := terminal.output ++ text }

/-- Shows lines. -/
def showLines (lines : List Line) : Action Unit :=
  write (Console.textOf lines)

/-- Shows the lines that are made for the width of the terminal. -/
def showWith (make : Nat → Except Markup.Problem (List Line)) : Action Unit := do
  match make (← get).width with
  | .ok lines => showLines lines
  | .error problem => throw (.failure (.markup problem))

/-- Shows a notice. -/
def notify (notice : Notice) (message : String) : Action Unit :=
  showWith fun width => notice.lines width message

/-- Shows an error and ends the request. -/
def refuse {α : Type} (message : String) : Action α := do
  notify .error message
  throw (.exit 1)

/-! ### Projects -/

/-- The project at the real place of a path, which need not lead anywhere. -/
def projectAt (path : String) : Action ProjectRoot := do
  if path.toList.contains '\x00' then throw (.failure .nullInPath)
  let terminal ← get
  return terminal.root.ofPlace (terminal.tree.realPlace path)

/-- Refuses a project that lies nowhere with a message. -/
def requireProject (root : ProjectRoot) (message : String) : Action Unit := do
  match (← get).tree.reach root.place with
  | .place _ => return ()
  | .endless => throw (.failure (.endlessLinks root.path))
  | .overlong => throw (.failure (.overlong root.path))
  | _ => refuse message

/-- The project at a path, or else the one to which the current directory belongs. -/
def findProject (path : Option String) : Action ProjectRoot := do
  let terminal ← get
  match nonEmpty? path with
  | some path =>
    let root ← projectAt path
    requireProject root ("Path does not exist: " ++ path)
    return root
  | none =>
    return terminal.root.ofPlace ((Settings.findRoot? terminal.tree []).getD [])

/-- The wording of settings that are not valid. -/
def invalidMessage (root : ProjectRoot) (issues : List Settings.Issue) : String :=
  "Invalid config at " ++ Settings.shownPath root ++ ": " ++
    Settings.report "ProjectConfig" issues

/-- Loads the settings of a project. -/
def loadSettings (root : ProjectRoot) : Action Settings := do
  let terminal ← get
  match Settings.load terminal.room terminal.tree root with
  | .ok settings => return settings
  | .error (.unreadable (.notJson (.malformed problem line column position))) =>
    refuse (Settings.malformedMessage root (.malformed problem line column position))
  | .error (.unreadable (.invalid issues)) => refuse (invalidMessage root issues)
  | .error error => throw (.failure (.load root error))

/-- Saves the settings of a project. -/
def saveSettings (root : ProjectRoot) (settings : Settings) : Action Unit := do
  match Settings.save (← get).tree root settings with
  | .ok tree => modify fun terminal => { terminal with tree }
  | .error error => throw (.failure (.save root error))

/-- A session that has analysed a project. -/
def analyzeProject (root : ProjectRoot) (settings : Settings) : Action Session := do
  let terminal ← get
  let session := Session.withSettings settings
  match session.analyzeTree terminal.room (terminal.tree.below root.place) with
  | .ok session => return session
  | .error error => throw (.failure (.analysis root error))

/-- A session that has analysed a project, which is announced. -/
def analyzeAloud (root : ProjectRoot) (settings : Settings) : Action Session := do
  let session ← analyzeProject root settings
  notify .success ("Analyzed " ++ Console.countText session.snapshot.index.files.size ++
    " files in " ++ (← get).elapsed ++ "s")
  return session

/-! ### Commands -/

/-- Writes the settings of the project at a path. -/
def runInit (path : Option String) (budget : Option Int) : Action Unit := do
  let terminal ← get
  let root ← projectAt ((nonEmpty? path).getD ".")
  requireProject root ("Path does not exist: " ++ root.path)
  showLines (Console.bannerLines terminal.width)
  notify .info ("Initializing repoctx for: " ++ root.path)
  let settings ← loadSettings root
  let brief := { settings.brief with maxTokens := budget.getD settings.brief.maxTokens }
  saveSettings root { settings with name := root.name, rootPath := root.path, brief }
  notify .success "Configuration saved to .repoctx/"

/-- Shows figures about a project. -/
def runAnalyze (path : Option String) : Action Unit := do
  let root ← findProject path
  let settings ← loadSettings root
  showLines (Console.bannerLines (← get).width)
  let session ← analyzeAloud root settings
  match session.snapshot.metadata.name.mapM CodeText.encode with
  | .ok _ => showWith fun width => Console.statsLines width session.snapshot
  | .error error => throw (.failure (.name error))

/-- What a request asks of a brief. -/
def BriefRequest.options (request : BriefRequest) : BriefOptions where
  maxTokens := request.budget
  includeAnalysis := if request.withoutAnalysis then some false else none
  includeMemory := if request.withoutMemory then some false else none
  focus := request.focus

/-- Shows a brief as text. -/
def showBrief (brief : Brief) : Action Unit := do
  showWith fun width => Console.summaryLines width brief
  if brief.files.isEmpty && brief.functions.isEmpty then
    notify .warning "Nothing in the repository matched the query."
  showLines (Console.plainLines (← get).width brief.prompt)

/-- Builds a brief for a project and shows it. -/
def runBrief (path : Option String) (request : BriefRequest) : Action Unit := do
  let root ← findProject path
  let settings ← loadSettings root
  let session ← if request.asJson then analyzeProject root settings else analyzeAloud root settings
  match (session.brief request.query request.options).2 with
  | .error error => throw (.failure (.brief error))
  | .ok brief =>
    if request.asJson then write (Json.Style.spread.write brief.toJson ++ "\n")
    else showBrief brief

/-- Reports on the health of a project. -/
def runHealth (path : Option String) : Action Unit := do
  let root ← findProject path
  let session ← analyzeAloud root (← loadSettings root)
  showWith fun width => Console.healthLines width session.snapshot.health

/-- The value that a text stands for: what it spells as JSON, or the text itself. -/
def readValue (text : String) : Action Json.Value := do
  match Json.parse (← get).room text with
  | .ok value => return value
  | .error (.malformed ..) => return .string text
  | .error error => throw (.failure (.value error))

/-- The wording of a value that is not valid. -/
def invalidValueMessage (key : String) (issues : List Settings.Issue) : String :=
  "Invalid value for " ++ key ++ ": " ++
    ((issues.head?.map fun issue => issue.fault.message).getD "")

/-- Sets the value under a key. -/
def runSet (root : ProjectRoot) (settings : Settings) (key text : String) : Action Unit := do
  let value ← readValue text
  match settings.set key value with
  | .error (.unknownKey key) => refuse ("Unknown config key: " ++ key)
  | .error (.invalid issues) => refuse (invalidValueMessage key issues)
  | .ok changed =>
    saveSettings root changed
    notify .success ("Set " ++ key ++ " = " ++ value.display)

/-- Shows or changes settings. -/
def runSettings (path : Option String) (action : SettingsAction) : Action Unit := do
  let root ← findProject path
  let settings ← loadSettings root
  match action with
  | .show => unless (← get).width = 0 do write (Json.Style.shown.write settings.toJson ++ "\n")
  | .get key =>
    match nonEmpty? key with
    | none => refuse "Usage: repoctx config get <key>"
    | some key => match settings.get? key with
      | none => refuse ("Unknown key: " ++ key)
      | some value => showWith fun width =>
          Console.markupLines width (key ++ " = " ++ value.display)
  | .set key value =>
    match nonEmpty? key, value with
    | some key, some value => runSet root settings key value
    | _, _ => refuse "Usage: repoctx config set <key> <value>"

/-- Carries out a command. -/
def runCommand (path : Option String) : Command → Action Unit
  | .init budget => runInit path budget
  | .analyze => runAnalyze path
  | .brief request => runBrief path request
  | .health => runHealth path
  | .settings action => runSettings path action

/-! ### Requests -/

/-- Carries out what some arguments ask for. -/
def runArguments (arguments : List String) : Action Unit := do
  match Request.read arguments with
  | .error refusal =>
    write refusal.text
    throw (.exit 2)
  | .ok .version => write ("repoctx, version " ++ Console.version ++ "\n")
  | .ok (.help form) => write (form.helpText ++ "\n")
  | .ok .nothing =>
    write (programForm.helpText ++ "\n")
    throw (.exit 2)
  | .ok (.run path command) => runCommand path command

/-- The terminal once some arguments have been carried out, and the failure if there is one. -/
structure Outcome where
  /-- The terminal. -/
  terminal : Terminal
  /-- The exit code. -/
  code : Nat
  /-- The failure. -/
  failure : Option Failure := none

/-- Carries out what some arguments ask for, on a terminal that has shown nothing yet. -/
def carryOut (terminal : Terminal) (arguments : List String) : Outcome :=
  match (runArguments arguments).run.run { terminal with output := "" } with
  | (.ok (), terminal) => { terminal, code := 0 }
  | (.error (.exit code), terminal) => { terminal, code }
  | (.error (.failure failure), terminal) => { terminal, code := 1, failure := some failure }

end CodeBrief.CommandLine
