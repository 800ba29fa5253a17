/-
**Literals.**

A literal is an expression that spells its value out: numbers, texts, named values, and tuples, sets
and dictionaries of literals.

* `checkLiteral` — whether a text is a literal, and what is wrong if it is not.
-/

import CodeBrief.Expression.Basic

namespace CodeBrief.Expression

/-- Why a text is no literal. -/
inductive LiteralError where
  /-- It is no expression. -/
  | malformed (fault : Fault)
  /-- It is an expression that does not spell its value out. -/
  | computed
  /-- An entry of a dictionary has no key. -/
  | noKey
  /-- A value that can change stands where none may. -/
  | changeable (kind : String)
  /-- It has a null character. -/
  | nullCharacter
  deriving DecidableEq, Repr

/-- The wording of an error. -/
def LiteralError.message : LiteralError → String
  | .malformed fault => fault.message
  | .computed => "malformed node or string"
  | .noKey => "malformed node or string: None"
  | .changeable kind => s!"unhashable type: '{kind}'"
  | .nullCharacter => "source code string cannot contain null bytes"

/-- Whether a node is a number that may be imaginary only if `imaginary` says so. -/
def Node.isNumber (imaginary : Option Bool) : Node → Bool
  | .number kind => imaginary.all (· == kind)
  | _ => false

/-- Whether a node is a number, perhaps with one sign. -/
def Node.isSignedNumber (imaginary : Option Bool) : Node → Bool
  | .signed operand => operand.isNumber imaginary
  | node => node.isNumber imaginary

mutual

/-- The kind of a value that can change in a literal, the value itself included. -/
def Node.changeable? : Node → Option String
  | .set _ => some "set"
  | .call .. => some "set"
  | .dictionary _ => some "dict"
  | .tuple items => changeableAmong? items
  | _ => none

/-- The kind of the first value that can change among some literals. -/
def changeableAmong? : List Node → Option String
  | [] => none
  | item :: rest => item.changeable? <|> changeableAmong? rest

end

/-- Refuses a value that can change. -/
def Node.requireFixed (node : Node) : Except LiteralError Unit :=
  match node.changeable? with
  | some kind => .error (.changeable kind)
  | none => .ok ()

mutual

/-- Whether a node is a literal. -/
def Node.check : Node → Except LiteralError Unit
  | .number _ => .ok ()
  | .text => .ok ()
  | .constant _ => .ok ()
  | .tuple items => checkAll false items
  | .set items => checkAll true items
  | .dictionary entries => checkEntries entries
  | .call (.name "set") [] => .ok ()
  | .signed operand => if operand.isNumber none then .ok () else .error .computed
  | .sum left right =>
    if left.isSignedNumber (some false) && right.isNumber (some true) then .ok ()
    else .error .computed
  | _ => .error .computed

/-- Whether some nodes are literals, fixed ones if need be. -/
def checkAll (fixed : Bool) : List Node → Except LiteralError Unit
  | [] => .ok ()
  | item :: rest => do
    item.check
    if fixed then item.requireFixed
    checkAll fixed rest

/-- Whether the keys and values of some entries are literals, and the keys fixed ones. -/
def checkEntries : List (Option Node × Node) → Except LiteralError Unit
  | [] => .ok ()
  | (none, _) :: _ => .error .noKey
  | (some key, value) :: rest => do
    key.check
    value.check
    key.requireFixed
    checkEntries rest

end

/-- Whether a text is a literal. -/
def checkLiteral (text : List Char) : Except LiteralError Unit :=
  if text.contains (Char.ofNat 0) then .error .nullCharacter
  else
    let node := do
      let (tokens, opened) ← tokens text
      Node.ofTokens tokens opened
    match node with
    | .ok node => node.check
    | .error fault => .error (.malformed fault)

end CodeBrief.Expression
