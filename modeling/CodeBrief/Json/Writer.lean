/-
**Writing JSON.**

A value is written on one line without blanks, or with one item or member a line and an indentation
that grows with the depth.

* `Style` — the decisions: indentation, escapes and the layout of numbers.
* `write` — the text of a value in a style.
-/

import CodeBrief.Json.Value

namespace CodeBrief.Json

/-- How values are written. -/
structure Style where
  /-- The blanks that one level of depth adds, or nothing for a value on one line. -/
  indent : Option Nat
  /-- Whether characters beyond printable ASCII are escaped. -/
  asciiOnly : Bool
  /-- The layout of fractional numbers. -/
  numbers : Binary64.Layout

/-- One line, no blanks, no needless escapes. -/
def Style.compact : Style := ⟨none, false, .compact⟩

/-- The compact style spread over lines, for people to read. -/
def Style.spread : Style := ⟨some 2, false, .compact⟩

/-- The style of settings files. -/
def Style.settings : Style := ⟨some 2, true, .settings⟩

/-- The style in which settings are shown. -/
def Style.shown : Style := ⟨some 2, false, .settings⟩

/-- The numeric escape of one sixteen-bit unit. -/
def unitEscape (unit : Nat) : List Char :=
  '\\' :: 'u' :: Text.hexadecimal 4 unit

/-- The spelling of one character between double quotes. -/
def Style.writeChar (style : Style) (c : Char) : List Char :=
  let n := c.toNat
  if c = '"' then ['\\', '"']
  else if c = '\\' then ['\\', '\\']
  else if n = 8 then ['\\', 'b']
  else if n = 9 then ['\\', 't']
  else if n = 10 then ['\\', 'n']
  else if n = 12 then ['\\', 'f']
  else if n = 13 then ['\\', 'r']
  else if n < 32 then unitEscape n
  else if style.asciiOnly ∧ 126 < n then
    if n < 0x10000 then unitEscape n
    else
      unitEscape (0xD800 + (n - 0x10000) / 0x400) ++ unitEscape (0xDC00 + (n - 0x10000) % 0x400)
  else [c]

/-- The spelling of a text. -/
def Style.writeText (style : Style) (text : String) : List Char :=
  '"' :: text.toList.flatMap style.writeChar ++ ['"']

/-- What stands before an item at a depth: nothing on one line, else a new line and its blanks. -/
def Style.newLine (style : Style) (depth : Nat) : List Char :=
  match style.indent with
  | none => []
  | some blanks => '\n' :: List.replicate (depth * blanks) ' '

/-- What stands between the name and the value of a member. -/
def Style.colon (style : Style) : List Char :=
  if style.indent.isNone then [':'] else [':', ' ']

mutual

/-- The text of a value at a depth. -/
def writeAt (style : Style) (depth : Nat) : Value → List Char
  | .null => "null".toList
  | .bool value => (if value then "true" else "false").toList
  | .int value => Text.spellInt value
  | .float value => style.numbers.write value
  | .string value => style.writeText value
  | .array [] => ['[', ']']
  | .array (item :: rest) =>
    '[' :: style.newLine (depth + 1) ++ writeAt style (depth + 1) item ++
      writeItems style (depth + 1) rest ++ style.newLine depth ++ [']']
  | .object [] => ['{', '}']
  | .object ((name, value) :: rest) =>
    '{' :: style.newLine (depth + 1) ++ style.writeText name ++ style.colon ++
      writeAt style (depth + 1) value ++ writeMembers style (depth + 1) rest ++
      style.newLine depth ++ ['}']

/-- The text of the items after the first one. -/
def writeItems (style : Style) (depth : Nat) : List Value → List Char
  | [] => []
  | item :: rest =>
    ',' :: style.newLine depth ++ writeAt style depth item ++ writeItems style depth rest

/-- The text of the members after the first one. -/
def writeMembers (style : Style) (depth : Nat) : List (String × Value) → List Char
  | [] => []
  | (name, value) :: rest =>
    ',' :: style.newLine depth ++ style.writeText name ++ style.colon ++
      writeAt style depth value ++ writeMembers style depth rest

end

/-- The text of a value in a style, as characters. -/
def Style.chars (style : Style) (value : Value) : List Char :=
  writeAt style 0 value

/-- The text of a value in a style. -/
def Style.write (style : Style) (value : Value) : String :=
  String.ofList (style.chars value)

end CodeBrief.Json
