/-
**The settings file.**

A project keeps its settings in a file of a directory of its own. A project without that file has
the settings that it begins with.

* `Settings.load`, `Settings.save` — the settings of a project from and to its file.
* `Settings.findRoot?` — the directory of the project to which a place belongs.
-/

import CodeBrief.Repository.Listing
import CodeBrief.Settings.Basic

namespace CodeBrief

/-- The directory of a project within a file tree. -/
structure ProjectRoot where
  /-- Where it lies in the tree. -/
  place : List String := []
  /-- Its name. -/
  name : String
  /-- Its path, as it is shown. -/
  path : String
  deriving DecidableEq, Repr

/-- The directory at a place of the tree whose own directory is `home`. -/
def ProjectRoot.ofPlace (home : ProjectRoot) (place : List String) : ProjectRoot where
  place := place
  name := if place.isEmpty then home.name
    else (place.getLast?.filter fun name => name != SystemPlaces.root).getD ""
  path := if FileTree.isOfSystem place then "/" ++ FileTree.pathOf (place.drop 1)
    else FileTree.pathOf (home.path :: place)

namespace Settings

/-- The name of the directory with the settings file. -/
def directoryName : String := ".repoctx"

/-- The name of the settings file. -/
def fileName : String := "config.json"

/-- The path of the directory with the settings file of a project. -/
def directoryPath (root : ProjectRoot) : String :=
  FileTree.pathOf (root.place ++ [directoryName])

/-- The path of the settings file of a project. -/
def filePath (root : ProjectRoot) : String :=
  FileTree.pathOf (root.place ++ [directoryName, fileName])

/-- The path of the directory with the settings file of a project, as it is shown. -/
def shownDirectory (root : ProjectRoot) : String :=
  root.path ++ "/" ++ directoryName

/-- The path of the settings file of a project, as it is shown. -/
def shownPath (root : ProjectRoot) : String :=
  shownDirectory root ++ "/" ++ fileName

/-- Why the settings of a project cannot be loaded. -/
inductive LoadError where
  /-- The file is no text. -/
  | undecodable (error : Text.Utf8.Error)
  /-- A directory lies in the place of the file. -/
  | isDirectory
  /-- A name on the way to the file is too long. -/
  | overlong
  /-- Something lies in the place of the file that cannot be read to an end. -/
  | endless
  /-- Something lies in the place of the file that cannot be opened. -/
  | refused
  /-- The text holds no settings. -/
  | unreadable (error : ReadError)
  deriving Repr

/-- What keeps a directory or a file from being made at a path. -/
inductive Obstacle where
  /-- A directory on the way is missing. -/
  | missing
  /-- Something at the path cannot be opened. -/
  | refused
  /-- Something else lies there. -/
  | occupied
  /-- Something on the way is no directory. -/
  | blocked
  /-- A directory lies there. -/
  | isDirectory
  /-- A name on the way is too long. -/
  | overlong
  /-- There are too many links on the way. -/
  | tooManyLinks
  deriving DecidableEq, Repr

/-- Why the settings of a project cannot be saved. -/
inductive SaveError where
  /-- The directory for them cannot be made, or one of those above it: that many steps up. -/
  | directory (obstacle : Obstacle) (above : Nat)
  /-- The file cannot be made. -/
  | file (obstacle : Obstacle)
  /-- Nothing more can be written where the file belongs. -/
  | full
  /-- Writing where the file belongs does not come to an end. -/
  | endless
  deriving DecidableEq, Repr

/-- The wording of settings that are not JSON. -/
def malformedMessage (root : ProjectRoot) (error : Json.ReadError) : String :=
  "Invalid config at " ++ shownPath root ++ ": " ++ error.message

/-- What is wrong at a path. -/
def Obstacle.message (path : String) (obstacle : Obstacle) : String :=
  (match obstacle with
    | .missing => "[Errno 2] No such file or directory"
    | .refused => "[Errno 6] No such device or address"
    | .occupied => "[Errno 17] File exists"
    | .blocked => "[Errno 20] Not a directory"
    | .isDirectory => "[Errno 21] Is a directory"
    | .overlong => "[Errno 36] File name too long"
    | .tooManyLinks => "[Errno 40] Too many levels of symbolic links") ++
  ": " ++ String.ofList (Text.quoted path.toList)

/-- The path some steps above another one, as it is shown. -/
def shownAbove (steps : Nat) (path : String) : String :=
  let names := Text.pieces (· == '/') path.toList
  String.ofList (Text.join ['/'] (names.take (names.length - steps)))

/-- The wording of an error. -/
def SaveError.message (root : ProjectRoot) : SaveError → String
  | .directory obstacle above => obstacle.message (shownAbove above (shownDirectory root))
  | .file obstacle => obstacle.message (shownPath root)
  | .full => "[Errno 28] No space left on device"
  | .endless => "No end of writing: " ++ shownPath root

/-- The settings that some bytes spell, read with `room` for values within each other. -/
def ofBytes (room : Nat) (bytes : List UInt8) : Except LoadError Settings :=
  match FileTree.strictText bytes with
  | .ok content => (read room content).mapError .unreadable
  | .error error => .error (.undecodable error)

/-- The settings of a project, read with `room` for values within each other. -/
def load (room : Nat) (tree : FileTree) (root : ProjectRoot) : Except LoadError Settings :=
  match tree.resolve (filePath root), tree.find? (filePath root) with
  | .overlong, _ => .error .overlong
  | _, some (.file bytes) => ofBytes room bytes
  | _, some (.special kind) =>
    match kind.reading with
    | .endless => .error .endless
    | .refused => .error .refused
    | _ => ofBytes room []
  | _, some .directory => .error .isDirectory
  | _, _ => .ok (initial root.name root.path)

/-- A tree with some bytes where the path of a file leads. -/
def fill (tree : FileTree) (path : String) (bytes : List UInt8) : Except SaveError FileTree :=
  match tree.resolve path with
  | .place place =>
    match tree.node? place with
    | some .directory => .error (.file .isDirectory)
    | some (.special kind) =>
      match kind.writing with
      | .done => .ok tree
      | .endless => .error .endless
      | .full => .error .full
      | .refused => .error (.file .refused)
    | _ => .ok (tree.set place (.file bytes))
  | .absent place => .ok (tree.set place (.file bytes))
  | .nowhere => .error (.file .missing)
  | .blocked => .error (.file .blocked)
  | .endless => .error (.file .tooManyLinks)
  | .overlong => .error (.file .overlong)

/-- Whether something lies at the place with a name in the directory to which other names lead. The
way to it is not followed further if it is a link. -/
def isTaken (tree : FileTree) (above : List String) (name : String) : Bool :=
  (tree.resolve? (FileTree.pathOf above)).any fun here =>
    (tree.node? (tree.enter here name)).isSome

/-- What keeps a directory, `above` steps up, from being made, with those above it as far as they
are missing. The names that lead to it are told from the last one on. -/
def obstacleFrom? (tree : FileTree) (above : Nat) : (backwards : List String) → Option SaveError
  | [] => none
  | name :: upper =>
    match tree.resolve (FileTree.pathOf (name :: upper).reverse) with
    | .place here =>
      if tree.node? here = some .directory then none else some (.directory .occupied above)
    | .absent _ =>
      if isTaken tree upper.reverse name then some (.directory .occupied above) else none
    | .nowhere => obstacleFrom? tree (above + 1) upper
    | .blocked => some (.directory .blocked above)
    | .endless => some (.directory .tooManyLinks above)
    | .overlong => some (.directory .overlong above)

/-- What keeps the directory for the settings of a project from being made. -/
def obstacle? (tree : FileTree) (root : ProjectRoot) : Option SaveError :=
  obstacleFrom? tree 0 (root.place ++ [directoryName]).reverse

/-- A tree in whose settings file the settings of a project are. The directory for them is made if
it is missing, with those above it. -/
def save (tree : FileTree) (root : ProjectRoot) (settings : Settings) : Except SaveError FileTree :=
  match obstacle? tree root with
  | some error => .error error
  | none => fill (tree.write (directoryPath root) .directory) (filePath root)
    (text settings).toUTF8.toList

/-- The innermost of the directories at and above a place that has a directory for settings. -/
def findRoot? (tree : FileTree) (place : List String) : Option (List String) :=
  (FileTree.upFrom place).find? fun names =>
    tree.isDirectory (FileTree.pathOf (names ++ [directoryName]))

end Settings

end CodeBrief
