/-
**The arguments of a command.**

Arguments that begin with a hyphen name switches: one by its long name, with a value after an equals
sign or in the next argument, or several by their letters, of which the last one may have its value
right behind it. Two hyphens alone end the switches. All other arguments are operands.

* `Form.read` — the switches and operands among some arguments.
-/

import CodeBrief.CommandLine.Similar
import CodeBrief.CommandLine.Usage

namespace CodeBrief.CommandLine

/-- A switch that is given, by its long name, with its value if it takes one. -/
structure Given where
  /-- The long name. -/
  name : String
  /-- The value. -/
  value : Option String := none
  deriving DecidableEq, Repr

/-- The switches and operands of a call. -/
structure Arguments where
  /-- The switches in order. -/
  given : List Given := []
  /-- The operands in order. -/
  operands : List String := []
  deriving DecidableEq, Repr

namespace Arguments

/-- Whether a switch is given. -/
def has (arguments : Arguments) (name : String) : Bool :=
  arguments.given.any fun given => given.name == name

/-- The last value that is given for a switch. -/
def value? (arguments : Arguments) (name : String) : Option String :=
  (arguments.given.reverse.find? fun given => given.name == name).bind Given.value

end Arguments

namespace Form

/-- What is left of the arguments once the value of a switch is taken from them. -/
def takeValue (name shown : String) (rest : List String) : Except Misuse (Given × List String) :=
  match rest with
  | value :: rest => .ok (⟨name, some value⟩, rest)
  | [] => .error (.missingValue shown)

/-- The switch that a long name and the value attached to it stand for, and the arguments after
it. -/
def readLong (form : Form) (name : String) (attached : Option String) (rest : List String) :
    Except Misuse (Given × List String) :=
  match form.allSwitches.find? fun switch => switch.long == name, attached with
  | none, _ => .error (.unknownSwitch name (closest name (form.allSwitches.map Switch.long)))
  | some switch, none =>
    if switch.takesValue then takeValue switch.long name rest else .ok (⟨switch.long, none⟩, rest)
  | some switch, some value =>
    if switch.takesValue then .ok (⟨switch.long, some value⟩, rest)
    else .error (.unwantedValue name)

/-- The switches that some letters stand for, and the arguments after them. -/
def readLetters (form : Form) : (letters : List Char) → (rest : List String) →
    Except Misuse (List Given × List String)
  | [], rest => .ok ([], rest)
  | letter :: letters, rest =>
    let shown := String.ofList ['-', letter]
    match form.allSwitches.find? fun switch => switch.short == some letter with
    | none => .error (.unknownSwitch shown [])
    | some switch =>
      if !switch.takesValue then
        (readLetters form letters rest).map fun (given, rest) =>
          (⟨switch.long, none⟩ :: given, rest)
      else if letters.isEmpty then
        (takeValue switch.long shown rest).map fun (given, rest) => ([given], rest)
      else .ok ([⟨switch.long, some (String.ofList letters)⟩], rest)

/-- The name in front of the first equals sign of an argument, and the value behind it. -/
def splitValue (argument : String) : String × Option String :=
  let name := argument.toList.takeWhile (· != '=')
  match argument.toList.drop name.length with
  | _ :: value => (String.ofList name, some (String.ofList value))
  | [] => (argument, none)

/-- The switches that an argument stands for, and the arguments after them. -/
def readSwitches (form : Form) (argument : String) (rest : List String) :
    Except Misuse (List Given × List String) :=
  match argument.toList with
  | '-' :: '-' :: _ =>
    let (name, attached) := splitValue argument
    (readLong form name attached rest).map fun (given, rest) => ([given], rest)
  | _ => readLetters form (argument.toList.drop 1) rest

/-- Whether an argument names switches. -/
def namesSwitches (argument : String) : Bool :=
  argument.startsWith "-" && argument != "-"

/-- The switches and operands among some arguments, of which at most `fuel` are read. -/
def readFrom (form : Form) : (fuel : Nat) → List String → Except Misuse Arguments
  | 0, rest => .ok { operands := rest }
  | _, [] => .ok {}
  | fuel + 1, argument :: rest =>
    if argument == "--" then .ok { operands := rest }
    else if namesSwitches argument then do
      let (given, rest) ← form.readSwitches argument rest
      let arguments ← form.readFrom fuel rest
      return { arguments with given := given ++ arguments.given }
    else if form.mixed then
      (form.readFrom fuel rest).map fun arguments =>
        { arguments with operands := argument :: arguments.operands }
    else .ok { operands := argument :: rest }

/-- The switches and operands among some arguments. -/
def read (form : Form) (arguments : List String) : Except Misuse Arguments :=
  form.readFrom arguments.length arguments

end Form

end CodeBrief.CommandLine
