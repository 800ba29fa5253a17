/-
**Pictographs by name.**

A name between colons, such as `:warning:`, stands for a pictograph. The name is read in any case,
and may be followed by `-emoji` or `-text`, which ask for a coloured or a plain picture. A name that
is not known stands for itself, colons included.

* `pictograph?` — the pictograph of a name.
* `withPictographs` — a text with pictographs in the place of their names.
-/

import CodeBrief.Console.PictographTable
import CodeBrief.Text.Blank
import CodeBrief.Text.Lower

namespace CodeBrief.Console

/-- Neighbours in a list as pairs. -/
def paired {α : Type} : List α → List (α × α)
  | left :: right :: rest => (left, right) :: paired rest
  | _ => []

/-- The pictographs under their names. -/
def pictographs : List (List Char × List Char) :=
  paired (Text.words pictographNames.toList)

/-- The pictograph of a name. -/
def pictograph? (name : List Char) : Option (List Char) :=
  pictographs.lookup (Text.lower name)

/-- The kinds of pictures with the characters that ask for them. -/
def pictureKinds : List (List Char × Char) :=
  [("-emoji".toList, Char.ofNat 0xFE0F), ("-text".toList, Char.ofNat 0xFE0E)]

/-- A name without the kind of picture at its end, and the characters that ask for the kind. -/
def splitKind (name : List Char) : List Char × List Char :=
  match pictureKinds.find? fun kind => kind.1.isSuffixOf name with
  | some (ending, mark) => (name.take (name.length - ending.length), [mark])
  | none => (name, [])

/-- What stands for the name `name` between colons. -/
def nameOrPictograph (name : List Char) : List Char :=
  let (bare, kind) := splitKind name
  match pictograph? bare with
  | some picture => picture ++ kind
  | none => ':' :: name ++ [':']

/-- The name that stands in front of a colon, if a text begins with one. -/
def nameAt? (text : List Char) : Option (List Char) :=
  let name := text.takeWhile fun c => c != ':' && !Text.isBlank c
  if (text.drop name.length).head? == some ':' then some name else none

/-- A text with pictographs in the place of their names; the first `skip` characters are left
out. -/
def picturesFrom : (skip : Nat) → List Char → List Char
  | _, [] => []
  | skip + 1, _ :: rest => picturesFrom skip rest
  | 0, c :: rest =>
    match if c = ':' then nameAt? rest else none with
    | some name => nameOrPictograph name ++ picturesFrom (name.length + 1) rest
    | none => c :: picturesFrom 0 rest

/-- A text with pictographs in the place of their names. -/
def withPictographs (text : List Char) : List Char :=
  picturesFrom 0 text

end CodeBrief.Console
