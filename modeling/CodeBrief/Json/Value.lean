/-
**JSON values.**

A value is null, a truth value, a whole or fractional number, a text, a list of values, or an
object: a list of named members in order. Its texts and names are texts of characters in what is
written, and texts of code points in what is read.

* `ValueOf` — a value with texts and names of some type; `ValueOf.map` — with other ones.
* `Value`, `Document` — a value that can be written, and one that is read.
* `Value.asRead`, `Document.legible` — the one from the other.
* `Value.member?` — the member of an object under a name.
* `Document.isEmptyLike` — whether a value stands for nothing: null, false, zero, or without
  content.
* `ValueOf.depth` — how many values stand within each other.
* `Document.display`, `Value.display` — the text of a value as it is shown to people.
-/

import CodeBrief.Ledger
import CodeBrief.Binary64.Decimal
import CodeBrief.Text.Blank
import CodeBrief.Text.CodeText

namespace CodeBrief.Json

/-- A JSON value whose texts and names are of the type `τ`. -/
inductive ValueOf (τ : Type) where
  /-- The value that stands for nothing. -/
  | null
  /-- A truth value. -/
  | bool (value : Bool)
  /-- A number written without point and exponent. -/
  | int (value : Int)
  /-- A number written with a point or an exponent. -/
  | float (value : Binary64)
  /-- A text. -/
  | string (value : τ)
  /-- A list of values. -/
  | array (items : List (ValueOf τ))
  /-- Named values in order. -/
  | object (members : List (τ × ValueOf τ))
  deriving Repr

/-- A JSON value of texts of characters. -/
abbrev Value := ValueOf String

/-- A JSON value of texts of code points, in whose objects no name occurs twice. -/
abbrev Document := ValueOf CodeText

namespace ValueOf

variable {τ σ : Type}

instance : Inhabited (ValueOf τ) := ⟨.null⟩

/-- A text, or null in its absence. -/
def ofText? : Option τ → ValueOf τ
  | none => .null
  | some text => .string text

/-- A list of texts. -/
def ofTexts (texts : List τ) : ValueOf τ :=
  .array (texts.map .string)

mutual

/-- A value with other texts and names. -/
def map (change : τ → σ) : ValueOf τ → ValueOf σ
  | .null => .null
  | .bool value => .bool value
  | .int value => .int value
  | .float value => .float value
  | .string value => .string (change value)
  | .array items => .array (mapItems change items)
  | .object members => .object (mapMembers change members)

/-- The items of a list with other texts and names. -/
def mapItems (change : τ → σ) : List (ValueOf τ) → List (ValueOf σ)
  | [] => []
  | item :: rest => item.map change :: mapItems change rest

/-- The members of an object with other texts and names. -/
def mapMembers (change : τ → σ) : List (τ × ValueOf τ) → List (σ × ValueOf σ)
  | [] => []
  | (name, value) :: rest => (change name, value.map change) :: mapMembers change rest

end

mutual

/-- The number of values within each other, from a value to the innermost one in it. -/
def depth : ValueOf τ → Nat
  | .array items => depthOfItems items + 1
  | .object members => depthOfMembers members + 1
  | _ => 1

/-- The largest depth of some items, nought if there is none. -/
def depthOfItems : List (ValueOf τ) → Nat
  | [] => 0
  | item :: rest => max item.depth (depthOfItems rest)

/-- The largest depth of the values of some members, nought if there is none. -/
def depthOfMembers : List (τ × ValueOf τ) → Nat
  | [] => 0
  | (_, value) :: rest => max value.depth (depthOfMembers rest)

end

end ValueOf

namespace Document

/-- A value with a replacement character for every half of a surrogate pair. -/
def legible (document : Document) : Value :=
  document.map CodeText.legible

/-- Whether a value stands for nothing: null, false, a zero, or a text, list or object without
content. -/
def isEmptyLike : Document → Bool
  | .null => true
  | .bool value => !value
  | .int value => value == 0
  | .float value => value.isZero
  | .string value => value.isEmpty
  | .array items => items.isEmpty
  | .object members => members.isEmpty

mutual

/-- The text of a value within another one. -/
def displayInner : Document → List Char
  | .null => "None".toList
  | .bool value => (if value then "True" else "False").toList
  | .int value => Text.spellInt value
  | .float value => Binary64.Layout.display.write value
  | .string value => value.quoted
  | .array items => '[' :: Text.join ", ".toList (displayItems items) ++ [']']
  | .object members => '{' :: Text.join ", ".toList (displayMembers members) ++ ['}']

/-- The texts of the items of a list. -/
def displayItems : List Document → List (List Char)
  | [] => []
  | item :: rest => displayInner item :: displayItems rest

/-- The texts of the members of an object. -/
def displayMembers : List (CodeText × Document) → List (List Char)
  | [] => []
  | (name, value) :: rest =>
    (name.quoted ++ ": ".toList ++ displayInner value) :: displayMembers rest

end

/-- The text of a value as it is shown to people: a text as it is, and within other values
quoted. -/
def display : Document → CodeText
  | .string value => value
  | value => .ofString (String.ofList (displayInner value))

end Document

namespace Value

/-- The value as it is read. -/
def asRead (value : Value) : Document :=
  value.map CodeText.ofString

/-- The member of an object under `name`. -/
def member? (name : String) : Value → Option Value
  | .object members => members.lookup name
  | _ => none

/-- The text of a value within another one. -/
def displayInner (value : Value) : List Char :=
  Document.displayInner (asRead value)

/-- The text of a value as it is shown to people. -/
def display : Value → String
  | .string value => value
  | value => String.ofList (displayInner value)

end Value

end CodeBrief.Json
