/-
**Paths.**

A path is a text of names between slashes. Some questions about a path read the text as it stands,
others read its parts: the names without empty ones and single dots, after the root if there is one.

* `fileName`, `extension?` — the last name of a path and what follows its last dot.
* `isScript`, `isTest` — whether a path names a script or a test.
* `parts`, `parents` — the parts of a path, and the paths of the directories above it.
-/

import CodeBrief.Text.Blank
import CodeBrief.Text.Occurrence

namespace CodeBrief.Path

/-- The names of a path between its slashes, empty ones included. -/
def segments (path : String) : List (List Char) :=
  Text.pieces (· == '/') path.toList

/-- The part of a path after its last slash. -/
def fileName (path : String) : List Char :=
  (segments path).getLast?.getD []

/-- The ends of the paths of scripts. -/
def scriptExtensions : List String := [".js", ".ts", ".jsx", ".tsx"]

/-- Whether `path` ends with `ending`. -/
def endsWith (path ending : String) : Bool :=
  ending.toList.isSuffixOf path.toList

/-- Whether `path` names a script. -/
def isScript (path : String) : Bool :=
  scriptExtensions.any (endsWith path)

/-- Whether `path` names a test. -/
def isTest (path : String) : Bool :=
  Text.contains path "test" || Text.contains path "spec"

/-- What follows the last dot of the file name, unless its only dots stand in front. -/
def extension? (path : String) : Option String :=
  let name := fileName path
  if (name.dropWhile (· == '.')).contains '.' then
    (Text.pieces (· == '.') name).getLast?.map String.ofList
  else none

/-- The file name up to its last dot, or all of it if nothing stands before a dot. -/
def stem (path : String) : String :=
  let name := fileName path
  let upToDot := (name.reverse.dropWhile (· != '.')).drop 1
  if upToDot.isEmpty then String.ofList name else String.ofList upToDot.reverse

/-! ### Parts -/

/-- The root of a path: none, one slash, or two slashes if there are exactly two in front. -/
def root (path : String) : String :=
  match path.toList with
  | '/' :: '/' :: '/' :: _ => "/"
  | '/' :: '/' :: _ => "//"
  | '/' :: _ => "/"
  | _ => ""

/-- The names of a path without empty ones and single dots. -/
def names (path : String) : List String :=
  ((segments path).filter fun name => !name.isEmpty && name != ['.']).map String.ofList

/-- The root of a path, if it has one, and its names. -/
def parts (path : String) : List String :=
  (if (root path).isEmpty then [] else [root path]) ++ names path

/-- The path of some names below a root. -/
def assemble (root : String) (names : List String) : String :=
  root ++ "/".intercalate names

/-- The proper initial segments of a list, the shortest first. -/
def initials {α : Type} : List α → List (List α)
  | [] => []
  | first :: rest => [] :: (initials rest).map (first :: ·)

/-- The directories above a path, the outermost first; the directory that relative paths begin in is
not one of them. -/
def parents (path : String) : List String :=
  ((initials (names path)).map (assemble (root path))).filter fun parent => !parent.isEmpty

end CodeBrief.Path
