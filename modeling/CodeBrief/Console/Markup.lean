/-
**Console markup.**

A text for the console may hold tags between square brackets, which ask for a style and are not
shown: an opening tag such as `[bold]`, a closing tag such as `[/bold]`, which closes the last open
tag of its name, and `[/]`, which closes the last open tag. A backslash before a tag makes it part
of the text. What is opened need not be closed, but what is closed must be open.

* `Markup.plain` — the text that is shown, or why there is none; names of pictographs in it are
  replaced.
* `Markup.Problem.message` — the wording of a problem.
-/

import CodeBrief.Console.Pictograph
import CodeBrief.Console.Style
import CodeBrief.Expression.Literal

namespace CodeBrief.Markup

/-! ### Tags -/

/-- A part of a text with markup. -/
inductive Piece where
  /-- Text. -/
  | text (content : List Char)
  /-- A tag with what stands between its brackets, and the number of characters before it. -/
  | tag (position : Nat) (inner : List Char)
  deriving DecidableEq, Repr

/-- Whether `c` may be the first character of a tag. -/
def beginsTag (c : Char) : Bool :=
  ('a' ≤ c && c ≤ 'z') || c == '#' || c == '/' || c == '@'

/-- What stands between the brackets of a tag whose opening bracket is followed by `text`. -/
def inner? (text : List Char) : Option (List Char) :=
  match text with
  | c :: rest =>
    let inside := rest.takeWhile fun other => other != ']' && other != '['
    if beginsTag c && (rest.drop inside.length).head? == some ']' then some (c :: inside) else none
  | [] => none

/-- The number of backslashes in front of a text and what stands between the brackets of the tag
after them, if there is one. -/
def tagAt? (text : List Char) : Option (Nat × List Char) :=
  let slashes := (text.takeWhile (· == '\\')).length
  match text.drop slashes with
  | '[' :: rest => (inner? rest).map fun inner => (slashes, inner)
  | _ => none

/-- A piece of text, unless it is empty. -/
def textPiece (content : List Char) : List Piece :=
  if content.isEmpty then [] else [.text content]

/-- The pieces of a tag after some backslashes: every two of them stand for one, and an odd one
makes the tag part of the text. -/
def tagPieces (position slashes : Nat) (inner : List Char) : List Piece :=
  textPiece (List.replicate (slashes / 2) '\\') ++
    if slashes % 2 = 1 then [.text ('[' :: inner ++ [']'])]
    else [.tag (position + slashes) inner]

/-- The pieces of a text of which `position` characters have been read, the last ones of them being
the text `pending`; the next `skip` characters belong to a tag. -/
def piecesFrom : (skip position : Nat) → (pending text : List Char) → List Piece
  | _, _, pending, [] => textPiece pending
  | skip + 1, position, pending, _ :: rest => piecesFrom skip (position + 1) pending rest
  | 0, position, pending, c :: rest =>
    match tagAt? (c :: rest) with
    | some (slashes, inner) =>
      textPiece pending ++ tagPieces position slashes inner ++
        piecesFrom (slashes + inner.length + 1) (position + 1) [] rest
    | none => piecesFrom 0 (position + 1) (pending ++ [c]) rest

/-- The pieces of a text. -/
def pieces (text : List Char) : List Piece :=
  piecesFrom 0 0 [] text

/-! ### Tags that are open -/

/-- A tag that is open. -/
structure OpenTag where
  /-- The name of its style. -/
  name : String
  /-- What stands after the name and an equals sign. -/
  value : Option (List Char)
  deriving DecidableEq, Repr

/-- Why a text with markup cannot be shown. -/
inductive Problem where
  /-- A closing tag closes no open tag. -/
  | notOpen (tag : String) (position : Nat)
  /-- A closing tag without a name stands where no tag is open. -/
  | nothingOpen (position : Nat)
  /-- A colour lacks a part. -/
  | incompleteColour
  /-- The arguments of a handler, a part of the value of its tag, are no literal. -/
  | badHandler (arguments value : List Char) (error : Expression.LiteralError)
  deriving DecidableEq, Repr

/-- The wording of a problem. -/
def Problem.message : Problem → String
  | .notOpen tag position =>
    "closing tag '" ++ tag ++ "' at position " ++ String.ofList (Text.spell position) ++
      " doesn't match any open tag"
  | .nothingOpen position =>
    "closing tag '[/]' at position " ++ String.ofList (Text.spell position) ++
      " has nothing to close"
  | .incompleteColour => "invalid literal for int() with base 10: ''"
  | .badHandler arguments value error =>
    let place := match error with
      | .malformed _ => String.ofList (Text.quoted arguments ++ " in ".toList ++ Text.quoted value)
      | _ => String.ofList (Text.quoted value)
    "error parsing " ++ place ++ "; " ++ error.message

/-- The spelling of the name of a style. -/
def nameOf (name : List Char) : Except Problem String :=
  match Console.styleName? name with
  | some spelling => .ok spelling
  | none => .error .incompleteColour

/-! ### Handlers

A tag whose name begins with `@` names an event, and its value what handles it: a dotted name with
arguments between brackets, either of which may be missing, or an expression. The arguments have to
be a literal; they are looked at when the tag is closed. -/

/-- The arguments in the value of a tag for a handler. -/
def handlerArguments (value : List Char) : List Char :=
  let stripped := Text.strip value
  let rest := stripped.dropWhile fun c => Text.isWord c || c == '.'
  if rest.isEmpty then ['(', ')']
  else if rest.head? = some '(' ∧ rest.getLast? = some ')' ∧ !rest.contains '\n' then rest
  else stripped

/-- Refuses a tag for a handler whose arguments are no literal. -/
def OpenTag.checkHandler (tag : OpenTag) : Except Problem Unit :=
  match tag.name.toList, tag.value with
  | '@' :: _, some value =>
    let arguments := handlerArguments value
    match Expression.checkLiteral arguments with
    | .error error => if value.isEmpty then .ok () else .error (.badHandler arguments value error)
    | .ok () => .ok ()
  | _, _ => .ok ()

/-! ### Closing tags -/

/-- The open tags, the last one first, without the last one. -/
def closeLast (position : Nat) : (opened : List OpenTag) → Except Problem (List OpenTag)
  | tag :: others => tag.checkHandler.map fun () => others
  | [] => .error (.nothingOpen position)

/-- The open tags, the last one first, without the last one of a name; `inner` is what stands in the
closing tag. -/
def closeNamed (position : Nat) (inner : List Char) (opened : List OpenTag) (name : String) :
    Except Problem (List OpenTag) :=
  match opened.find? (·.name == name) with
  | some tag => tag.checkHandler.map fun () => opened.eraseP (·.name == name)
  | none => .error (.notOpen (String.ofList ('[' :: inner ++ [']'])) position)

/-- The open tags, the last one first, after a tag. -/
def follow (position : Nat) (inner : List Char) (opened : List OpenTag) :
    Except Problem (List OpenTag) := do
  let name := inner.takeWhile (· != '=')
  let value := if name.length = inner.length then none else some (inner.drop (name.length + 1))
  match name with
  | '/' :: rest =>
    let closed := Text.strip rest
    if closed.isEmpty then closeLast position opened
    else closeNamed position inner opened (← nameOf closed)
  | _ => return ⟨← nameOf name, value⟩ :: opened

/-- A text in which a backslash before an opening bracket is left out. -/
def unescape : List Char → List Char
  | '\\' :: '[' :: rest => '[' :: unescape rest
  | c :: rest => c :: unescape rest
  | [] => []

/-- The texts of some pieces, with `opened` the tags that are open, the last one first. -/
def textsFrom (opened : List OpenTag) : List Piece → Except Problem (List (List Char))
  | [] => .ok []
  | .text content :: rest =>
    (textsFrom opened rest).map (Console.withPictographs (unescape content) :: ·)
  | .tag position inner :: rest =>
    match follow position inner opened with
    | .ok now => textsFrom now rest
    | .error problem => .error problem

/-- Whether `c` is a control that the console does not get. -/
def isControl (c : Char) : Bool :=
  [7, 8, 11, 12, 13].contains c.toNat

/-- A text without controls that the console does not get. -/
def dropControls (text : List Char) : List Char :=
  text.filter fun c => !isControl c

/-- The text that is shown for a text without markup. -/
def shown (text : String) : List Char :=
  dropControls (Console.withPictographs text.toList)

/-- The text that is shown for a text with markup. -/
def plain (text : String) : Except Problem (List Char) :=
  (textsFrom [] (pieces text.toList)).map fun texts => dropControls texts.flatten

end CodeBrief.Markup
