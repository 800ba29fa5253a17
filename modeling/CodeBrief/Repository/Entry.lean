/-
**Listings.**

A listing of a repository holds its files and directories with their paths and sizes, sorted by
path.

* `Entry` — one file or directory.
* `isExcluded` — whether a path, or one of its parts, matches a pattern.
* `listMapping` — the listing of texts under paths, with the directories above them.
-/

import CodeBrief.Ledger
import CodeBrief.Order
import CodeBrief.Path
import CodeBrief.Repository.Glob
import CodeBrief.Settings.Field
import CodeBrief.Text.Utf8

namespace CodeBrief

/-- What an entry of a listing is. -/
inductive EntryKind where
  /-- A file. -/
  | file
  /-- A directory. -/
  | directory
  deriving DecidableEq, Repr, Inhabited

/-- The word for a kind. -/
def EntryKind.name : EntryKind → String
  | .file => "file"
  | .directory => "directory"

/-- A file or directory of a repository. -/
structure Entry where
  /-- The path. -/
  path : String
  /-- What it is. -/
  kind : EntryKind := .file
  /-- The number of bytes of a file. -/
  size : Int := 0
  deriving DecidableEq, Repr

namespace Entry

open Settings (Checked textField wholeField)

/-- The kind that a value names. -/
def readKind (value : Json.Value) : Except Settings.Fault EntryKind :=
  match value with
  | .string "file" => .ok .file
  | .string "directory" => .ok .directory
  | _ => .error (.notAmong ["file", "directory"])

/-- The entry with some members. -/
def ofMembers (members : List (String × Json.Value)) : Checked Entry :=
  .ok Entry.mk |>
    Checked.plus (Settings.required members "path" textField) |>
    Checked.plus
      (Settings.optional members "type" (fun value => .ofResult value (readKind value)) .file) |>
    Checked.plus (Settings.optional members "size" wholeField 0)

/-- Entries sorted by path; entries with one path keep their order. -/
def sort (entries : List Entry) : List Entry :=
  sortBy (fun left right => textLe left.path right.path) entries

/-- The paths of the files of a listing. -/
def filePaths (entries : List Entry) : List String :=
  (entries.filter fun entry => entry.kind == .file).map Entry.path

end Entry

/-- Whether a path, or one of its parts, matches one of `patterns`. -/
def isExcluded (patterns : List String) (path : String) : Bool :=
  patterns.any fun pattern =>
    let tokens := Glob.ofText pattern
    Glob.accepts tokens path || (Path.parts path).any (Glob.accepts tokens)

/-- The directories above some paths, each once. -/
def directoriesAbove (paths : List String) : List String :=
  (paths.flatMap Path.parents).eraseDups

/-- The listing of texts under paths. -/
def listMapping (files : Ledger String) : List Entry :=
  Entry.sort <|
    (directoriesAbove files.names).map (fun path => { path, kind := .directory }) ++
    files.entries.map fun (path, content) =>
      { path, kind := .file, size := content.utf8ByteSize }

end CodeBrief
