/-
**Listings of file trees.**

A tree is listed without what is excluded, by the settings or by the tree itself, and without large
files. It is walked from the directory at which paths begin; an excluded directory is not entered.
Links are listed by what they lead to; directories behind them are not entered.

* `FileTree.load` — the text of a file, with a replacement character for what is not text.
* `FileTree.walk` — what a walk through directories comes to.
* `FileTree.list` — the listing of a tree.
-/

import CodeBrief.Repository.Entry
import CodeBrief.Repository.FileTree
import CodeBrief.Text.Line
import CodeBrief.Text.Quoted

namespace CodeBrief.FileTree

/-! ### Texts -/

/-- Why the text of a file cannot be loaded. -/
inductive LoadError where
  /-- There is no file at the path. -/
  | missing
  /-- A name on the way is too long. -/
  | overlong
  deriving DecidableEq, Repr

/-- The wording of a path with a name that is too long. -/
def overlongMessage (path : String) : String :=
  "[Errno 36] File name too long: " ++ String.ofList (Text.quoted path.toList)

/-- The text of the file to which a path leads, with each line break as a line feed and with a
replacement character for what is not text. -/
def load (tree : FileTree) (path : String) : Except LoadError String :=
  match tree.resolve path, tree.bytes? path with
  | .overlong, _ => .error .overlong
  | _, none => .error .missing
  | _, some bytes => .ok (String.ofList (Text.unifyBreaks (Text.Utf8.decodeLossy bytes)))

/-- The text of some bytes, with each line break as a line feed. -/
def strictText (bytes : List UInt8) : Except Text.Utf8.Error String :=
  (Text.Utf8.decode? bytes).map fun text => String.ofList (Text.unifyBreaks text)

/-! ### What is left out -/

/-- The name of the file with the paths that are left out. -/
def ignoreFile : String := ".gitignore"

/-- The patterns on the lines of a text: the lines that are not blank and not remarks, without
slashes at their end. -/
def ignorePatterns (text : List Char) : List String :=
  (((Text.lines text).map Text.strip).filter fun line =>
    !line.isEmpty && line.head? != some '#').map fun line =>
      String.ofList (Text.trimRight (· == '/') line)

/-- Why it cannot be told what a tree itself asks to leave out. -/
inductive IgnoreError where
  /-- The file that tells it is no text. -/
  | undecodable (error : Text.Utf8.Error)
  /-- A name on the way to that file is too long. -/
  | overlong
  /-- Something lies in its place that cannot be read to an end. -/
  | endless
  deriving DecidableEq, Repr

/-- The wording of an error in the directory at some path. -/
def IgnoreError.message (directory : String) : IgnoreError → String
  | .undecodable error => error.message
  | .overlong => overlongMessage (directory ++ "/" ++ ignoreFile)
  | .endless => "No end of file: " ++ directory ++ "/" ++ ignoreFile

/-- The patterns of the paths that a tree itself asks to leave out; none if the way to the file that
tells them ends early, or ends at something from which nothing can be read. -/
def ignored (tree : FileTree) : Except IgnoreError (List String) :=
  match tree.resolve ignoreFile, tree.find? ignoreFile with
  | .overlong, _ => .error .overlong
  | _, some (.file bytes) =>
    match Text.Utf8.decode? bytes with
    | .ok text => .ok (ignorePatterns (Text.unifyBreaks text))
    | .error error => .error (.undecodable error)
  | _, some (.special kind) => if kind.reading = .endless then .error .endless else .ok []
  | _, _ => .ok []

/-! ### Walking -/

/-- Something at a place, which is told by names from the directory at which paths begin. -/
abbrev Place := List String × Node

/-- What lies below the directory at which paths begin. -/
def placesBelow (tree : FileTree) : List Place :=
  let own := if (tree.namesBelow? []).isSome then [("", Node.directory)] else []
  (own ++ tree.nodes.entries).filterMap fun (path, node) =>
    let place := if path.isEmpty then [] else startOf [] path ++ Path.names path
    (tree.namesBelow? place).map fun names => (names, node)

/-- What lies in the directory `here` itself. -/
def placesIn (places : List Place) (here : List String) : List Place :=
  places.filter fun place => !place.1.isEmpty && place.1.dropLast == here

/-- What a walk from the directory `here` comes to, through at most `depth` directories, each in the
one before. What matches one of `patterns` is passed over: it is not told, and not entered. -/
def walk (patterns : List String) (places : List Place) : (depth : Nat) → (here : List String) →
    List Place
  | 0, _ => []
  | depth + 1, here =>
    let kept := (placesIn places here).filter fun place => !isExcluded patterns (pathOf place.1)
    kept ++ (kept.filter fun place => place.2 == .directory).flatMap fun place =>
      walk patterns places depth place.1

/-- The greatest number of names that lead to a place. -/
def depthOf (places : List Place) : Nat :=
  places.foldr (fun place depth => max place.1.length depth) 0

/-! ### Entries -/

/-- The entry at a path for a node that is no link. -/
def entryOf (path : String) (node : Node) : Entry :=
  { path, kind := if node = .directory then .directory else .file, size := node.size }

/-- The entry at a path, unless a link that leads nowhere lies there. Where a link leads to counts
for the kind and the size. -/
def entry? (tree : FileTree) (path : String) (node : Node) : Option Entry :=
  match node with
  | .link _ => (tree.find? path).map (entryOf path)
  | _ => some (entryOf path node)

/-- Whether an entry is no file of more than `maxSize` bytes. -/
def isListed (maxSize : Int) (entry : Entry) : Bool :=
  entry.kind == .directory || decide (entry.size ≤ maxSize)

/-- The listing of a tree without what matches one of `patterns`, and without files of more than
`maxSize` bytes. -/
def listWithout (tree : FileTree) (patterns : List String) (maxSize : Int) : List Entry :=
  let places := tree.placesBelow
  Entry.sort <|
    ((walk patterns places (depthOf places) []).filterMap fun place =>
      tree.entry? (pathOf place.1) place.2).filter (isListed maxSize)

/-- The number of bytes in the unit of the greatest file size. -/
def sizeUnit : Int := 1024

/-- The listing of a tree. -/
def list (tree : FileTree) (patterns : List String) (maxSize : Int) :
    Except IgnoreError (List Entry) :=
  tree.ignored.map fun own => tree.listWithout (patterns ++ own) (maxSize * sizeUnit)

end CodeBrief.FileTree
