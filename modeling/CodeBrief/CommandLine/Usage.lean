/-
**How commands are called.**

A command has switches, some of which take a value, and operands. A call that does not fit is
refused with the reason and a line that says how the command is called.

* `Form` — how a command is called; `Form.helpText` — what is said about it.
* `Misuse` — why a call is refused; `Misuse.message` — the wording.
* `Refusal.text` — what is shown for a call that is refused.
-/

import CodeBrief.Text.Digit
import CodeBrief.Text.Quoted

namespace CodeBrief.CommandLine

/-- A switch of a command. -/
structure Switch where
  /-- The long name, with two hyphens. -/
  long : String
  /-- The letter of the short name, if it has one. -/
  short : Option Char := none
  /-- The word for the value that it takes, if it takes one. -/
  operand : Option String := none
  /-- What it does. -/
  about : String := ""
  deriving DecidableEq, Repr

/-- Whether a switch takes a value. -/
def Switch.takesValue (switch : Switch) : Bool :=
  switch.operand.isSome

/-- The names of a switch between quotes. -/
def Switch.shown (switch : Switch) : String :=
  "'" ++ switch.long ++ "'" ++ match switch.short with
    | some letter => " / '-" ++ String.ofList [letter] ++ "'"
    | none => ""

/-- How a command is called. -/
structure Form where
  /-- The words that call it. -/
  words : String
  /-- What follows the switches, as it is shown. -/
  operands : List String := []
  /-- The switches. -/
  switches : List Switch := []
  /-- Whether switches may follow operands. -/
  mixed : Bool := true
  /-- The lines that say what the command does. -/
  about : List String := []
  /-- The commands that may follow, with what they do. -/
  commands : List (String × String) := []
  deriving DecidableEq, Repr

namespace Form

/-- The switch that asks for help. -/
def help : Switch := { long := "--help", about := "Show this message and exit." }

/-- All switches. -/
def allSwitches (form : Form) : List Switch :=
  form.switches ++ [help]

/-- How a command is called, in one line. -/
def usage (form : Form) : String :=
  "Usage: " ++ " ".intercalate (form.words :: "[OPTIONS]" :: form.operands)

/-- The names of a switch and the word for its value. -/
def switchNames (switch : Switch) : String :=
  (switch.short.map fun letter => String.ofList ['-', letter, ',', ' ']).getD "" ++ switch.long ++
    (switch.operand.map (" " ++ ·)).getD ""

/-- Lines with names and what is said about them side by side. -/
def columns (rows : List (String × String)) : List String :=
  let width := (rows.map fun row => row.1.length).foldl max 0
  rows.map fun (name, about) =>
    "  " ++ name ++ String.ofList (List.replicate (width + 2 - name.length) ' ') ++ about

/-- A heading with the lines below it, if there are any. -/
def part (heading : String) (lines : List String) : List String :=
  if lines.isEmpty then [] else "" :: (heading ++ ":") :: lines

/-- What is said about a command to one who asks for help. -/
def helpText (form : Form) : String :=
  "\n".intercalate <|
    form.usage :: "" :: form.about.map (fun line => if line.isEmpty then "" else "  " ++ line) ++
    part "Options"
      (columns (form.allSwitches.map fun switch => (switchNames switch, switch.about))) ++
    part "Commands" (columns form.commands)

end Form

/-- Why a call is refused. -/
inductive Misuse where
  /-- There is no such switch; some have similar names. -/
  | unknownSwitch (name : String) (similar : List String)
  /-- A switch lacks its value. -/
  | missingValue (name : String)
  /-- A switch has a value that it does not take. -/
  | unwantedValue (name : String)
  /-- The value of a switch is no whole number. -/
  | notWhole (switch : Switch) (value : String)
  /-- The value of a switch is not positive. -/
  | notPositive (switch : Switch) (value : Int)
  /-- An operand is missing; it is one of some words if there are any. -/
  | missingOperand (operand : String) (choices : List String)
  /-- An operand is none of the words that are allowed. -/
  | notAmong (operand value : String) (choices : List String)
  /-- There are operands to spare. -/
  | unexpected (operands : List String)
  /-- There is no such command; some have similar names. -/
  | unknownCommand (name : String) (similar : List String)
  /-- There is no command. -/
  | missingCommand
  deriving DecidableEq, Repr

/-- A text between quotes. -/
def quotedText (text : String) : String :=
  String.ofList (Text.quoted text.toList)

/-- What is said about similar names. -/
def similarHint : List String → String
  | [] => ""
  | [name] => " Did you mean " ++ quotedText name ++ "?"
  | names => " (Did you mean one of: " ++ ", ".intercalate (names.map quotedText) ++ "?)"

/-- What is said about the words that are allowed. -/
def choiceHint (choices : List String) : String :=
  if choices.isEmpty then ""
  else " Choose from:\n" ++ ",\n".intercalate (choices.map fun choice => "\t" ++ choice)

/-- The wording of a reason. -/
def Misuse.message : Misuse → String
  | .unknownSwitch name similar =>
    "No such option " ++ quotedText name ++ "." ++ similarHint similar
  | .missingValue name => "Option " ++ quotedText name ++ " requires an argument."
  | .unwantedValue name => "Option " ++ quotedText name ++ " does not take a value."
  | .notWhole switch value =>
    "Invalid value for " ++ switch.shown ++ ": " ++ quotedText value ++
      " is not a valid integer range."
  | .notPositive switch value =>
    "Invalid value for " ++ switch.shown ++ ": " ++ String.ofList (Text.spellInt value) ++
      " is not in the range x>=1."
  | .missingOperand operand choices =>
    "Missing argument '" ++ operand ++ "'." ++ choiceHint choices
  | .notAmong operand value choices =>
    "Invalid value for '" ++ operand ++ "': " ++ quotedText value ++ " is not one of " ++
      ", ".intercalate (choices.map quotedText) ++ "."
  | .unexpected operands =>
    "Got unexpected extra argument" ++ (if operands.length = 1 then "" else "s") ++ " (" ++
      " ".intercalate operands ++ ")"
  | .unknownCommand name similar =>
    "No such command " ++ quotedText name ++ "." ++ similarHint similar
  | .missingCommand => "Missing command."

/-- Whether a switch is known but not used as it should be. -/
def Misuse.concernsValue : Misuse → Bool
  | .missingValue _ | .unwantedValue _ => true
  | _ => false

/-- A call that is refused. -/
structure Refusal where
  /-- How the command is called. -/
  form : Form
  /-- Why the call is refused. -/
  reason : Misuse
  deriving DecidableEq, Repr

/-- How the command of a refused call is called, and how to ask for help. -/
def Refusal.advice (refusal : Refusal) : String :=
  refusal.form.usage ++ "\nTry '" ++ refusal.form.words ++ " --help' for help.\n\n"

/-- What is shown for a call that is refused. A switch that is known does not need the advice. -/
def Refusal.text (refusal : Refusal) : String :=
  (if refusal.reason.concernsValue then "" else refusal.advice) ++
    "Error: " ++ refusal.reason.message ++ "\n"

end CodeBrief.CommandLine
