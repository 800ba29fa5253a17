/-
**Styles by name.**

The name of a style is a list of words: attributes such as `bold`, or `not bold`; a colour; a colour
after `on`, for the background; and a target after `link`. Two names that ask for the same have the
same spelling.

* `Style.read` — the style that a name asks for.
* `Style.spelling` — the one name of a style.
* `styleName?` — the one spelling of any name; one that asks for no style is put in lower case.
-/

import CodeBrief.Console.Colour
import CodeBrief.Text.Lower

namespace CodeBrief.Console

/-- The attributes of a style with their short names, in the order in which they are named. -/
def attributes : List (String × List String) :=
  [("bold", ["b"]), ("dim", ["d"]), ("italic", ["i"]), ("underline", ["u"]), ("blink", []),
    ("blink2", []), ("reverse", ["r"]), ("conceal", ["c"]), ("strike", ["s"]),
    ("underline2", ["uu"]), ("frame", []), ("encircle", []), ("overline", ["o"])]

/-- The attribute that a word names. -/
def attribute? (word : String) : Option String :=
  (attributes.find? fun (name, short) => name == word || short.contains word).map Prod.fst

/-- What a style asks for. -/
structure Style where
  /-- The attributes that are on or off, the last one named first. -/
  settings : List (String × Bool) := []
  /-- The colour. -/
  colour : Option String := none
  /-- The colour of the background. -/
  background : Option String := none
  /-- The target of a link. -/
  link : Option String := none
  deriving DecidableEq, Repr

namespace Style

/-- A style that asks for a colour of the text too. -/
def withColour (style : Style) (word : List Char) : Except Colour.Fault Style := do
  let name := Text.lower word
  Colour.read name
  return { style with colour := some (String.ofList name) }

/-- A style that asks for a colour of the background too. -/
def withBackground (style : Style) (word : List Char) : Except Colour.Fault Style := do
  let name := Text.lower word
  Colour.read name
  return { style with background := some (String.ofList name) }

/-- A style with an attribute switched on or off. -/
def set (style : Style) (name : String) (on : Bool) : Style :=
  { style with settings := (name, on) :: style.settings }

/-- A style with what a word after `on`, `not` or `link` asks for. -/
def qualify (style : Style) (qualifier : String) (word : List Char) : Except Colour.Fault Style :=
  if qualifier == "on" then style.withBackground word
  else if qualifier == "link" then .ok { style with link := some (String.ofList word) }
  else match attribute? (String.ofList word) with
    | some name => .ok (style.set name false)
    | none => .error .form

/-- A style with what a word on its own asks for. -/
def add (style : Style) (word : List Char) : Except Colour.Fault Style :=
  match attribute? (String.ofList (Text.lower word)) with
  | some name => .ok (style.set name true)
  | none => style.withColour word

/-- The words that belong to the word after them. -/
def qualifiers : List String := ["on", "not", "link"]

/-- A style with what some words ask for. -/
def readWords (style : Style) : List (List Char) → Except Colour.Fault Style
  | [] => .ok style
  | word :: rest =>
    let qualifier := String.ofList (Text.lower word)
    if qualifiers.contains qualifier then
      match rest with
      | [] => .error .form
      | object :: rest =>
        match style.qualify qualifier object with
        | .ok style => readWords style rest
        | .error fault => .error fault
    else
      match style.add word with
      | .ok style => readWords style rest
      | .error fault => .error fault

/-- The style that a name asks for. -/
def read (name : List Char) : Except Colour.Fault Style :=
  if Text.strip name == "none".toList then .ok {} else readWords {} (Text.words name)

/-- The one name of a style: the attributes in their order, then the colour, the background and the
link. -/
def spelling (style : Style) : String :=
  let switched := attributes.filterMap fun (name, _) =>
    (style.settings.lookup name).map fun on => if on then name else "not " ++ name
  let words := switched ++ style.colour.toList ++ (style.background.map ("on " ++ ·)).toList ++
    (style.link.map ("link " ++ ·)).toList
  if words.isEmpty then "none" else " ".intercalate words

end Style

/-- The one spelling of a name: of a style, its one name, and of any other, the name in lower case.
There is none if a colour lacks a part. -/
def styleName? (name : List Char) : Option String :=
  match Style.read name with
  | .ok style => some style.spelling
  | .error .form => some (String.ofList (Text.lower (Text.strip name)))
  | .error .missingPart => none

end CodeBrief.Console
