/-
**File trees.**

A directory with all that lies below it: files with their bytes, directories, and symbolic links. A
place is told by names from that directory on; one above it begins with double dots, and one told
from the root of the system with a slash. Of those, only what every system has and what has been put
there is known.

A way through the tree follows links, up to a limit, and double dots lead up from where the way has
come to. The real place of a path is told even if nothing lies there: double dots leave out the name
before them, and links are followed without a limit.

* `FileTree.resolve` — where a way leads.
* `FileTree.realPlace` — the real place of a path.
* `FileTree.write` — a file put into the tree, with the directories above it.
-/

import CodeBrief.Ledger
import CodeBrief.Path
import CodeBrief.Repository.SystemPlaces

namespace CodeBrief

/-- Places below a directory under their paths, which have slashes between their names. -/
structure FileTree where
  /-- What lies below the directory. -/
  nodes : Ledger Node := ∅
  /-- The name of the directory. -/
  name : String := ""
  /-- The place at which paths begin. -/
  base : List String := []
  deriving Inhabited

namespace FileTree

/-! ### Places -/

/-- The path of a place. -/
def pathOf (names : List String) : String :=
  "/".intercalate names

/-- The name that leads to the directory above. -/
def upward : String := ".."

/-- Whether a place is told from the root of the system. -/
def isOfSystem (names : List String) : Bool :=
  names.head? == some SystemPlaces.root

/-- Whether a place is the directory of the tree or one above it. -/
def isAtOrAbove (names : List String) : Bool :=
  names.all (· == upward)

/-- What lies at a place, if something does; the way to it is not followed through links. -/
def node? (tree : FileTree) (names : List String) : Option Node :=
  if isAtOrAbove names then some .directory
  else tree.nodes.get? (pathOf names) <|> SystemPlaces.node? names

/-- The directory above a place. -/
def above (names : List String) : List String :=
  if isAtOrAbove names then names ++ [upward]
  else if names = [SystemPlaces.root] then names
  else names.dropLast

/-- The place with a name in the directory at a place. -/
def enter (tree : FileTree) (here : List String) (name : String) : List String :=
  if here = [upward] ∧ name = tree.name then [] else here ++ [name]

/-- The place at which a path begins that is told from `here`. -/
def startOf (here : List String) (path : String) : List String :=
  if (Path.root path).isEmpty then here else [SystemPlaces.root]

/-- The names of the target of a link, which may be empty or single dots. -/
def targetNames (target : String) : List String :=
  (Path.segments target).map String.ofList

/-- The directories at and above a place, the innermost first, as far as their names are known. -/
def upFrom (names : List String) : List (List String) :=
  names :: (Path.initials names).reverse.filter fun above =>
    !above.isEmpty || !(isOfSystem names || names.head? == some upward)

/-! ### Following a way -/

/-- Where a way leads. -/
inductive Way where
  /-- To a place where something lies. -/
  | place (names : List String)
  /-- To a place in a directory where nothing lies. -/
  | absent (names : List String)
  /-- Nowhere, as a directory on the way is missing. -/
  | nowhere
  /-- Nowhere, as something on the way is no directory. -/
  | blocked
  /-- Through too many links. -/
  | endless
  /-- Through a name that is too long. -/
  | overlong
  deriving DecidableEq, Repr

/-- The number of links after which a way is given up. -/
def linkLimit : Nat := 40

/-- The greatest number of bytes in a name. -/
def nameLimit : Nat := 255

/-- The greatest number of bytes in a path. -/
def pathLimit : Nat := 4095

/-- Where the way `rest` leads from the directory `here` if at most `links` links are followed. -/
def follow (tree : FileTree) (links : Nat) (here rest : List String) : Way :=
  match rest with
  | [] => .place here
  | name :: rest =>
    if name.isEmpty || name == "." then tree.follow links here rest
    else if name == upward then tree.follow links (above here) rest
    else if nameLimit < name.utf8ByteSize then .overlong
    else match tree.node? (tree.enter here name) with
      | none => if rest.isEmpty then .absent (tree.enter here name) else .nowhere
      | some .directory => tree.follow links (tree.enter here name) rest
      | some (.link target) =>
        match links with
        | 0 => .endless
        | links + 1 => tree.follow links (startOf here target) (targetNames target ++ rest)
      | some _ => if rest.isEmpty then .place (tree.enter here name) else .blocked
termination_by (links, rest.length)

/-- Where a path leads. -/
def resolve (tree : FileTree) (path : String) : Way :=
  if pathLimit < path.utf8ByteSize then .overlong
  else tree.follow linkLimit (startOf tree.base path) (Path.names path)

/-- The place to which a path leads. -/
def resolve? (tree : FileTree) (path : String) : Option (List String) :=
  match tree.resolve path with
  | .place names => some names
  | _ => none

/-- What lies at the place to which a path leads. -/
def find? (tree : FileTree) (path : String) : Option Node :=
  (tree.resolve? path).bind tree.node?

/-- Whether a path leads to a directory. -/
def isDirectory (tree : FileTree) (path : String) : Bool :=
  tree.find? path == some .directory

/-- The bytes of the file to which a path leads. -/
def bytes? (tree : FileTree) (path : String) : Option (List UInt8) :=
  match tree.find? path with
  | some (.file bytes) => some bytes
  | _ => none

/-! ### Real places

While links are followed, the way that has been found so far is kept as names that do not lead
through links, with double dots in front if it begins above the tree. -/

/-- The place told by some names, without a look at what lies there. -/
def plainPlace (tree : FileTree) (names : List String) : List String :=
  let fromRoot := names.head? == some SystemPlaces.root
  (if fromRoot then names.drop 1 else names).foldl (fun here name =>
    if name.isEmpty || name == "." then here
    else if name == upward then above here
    else tree.enter here name) (if fromRoot then [SystemPlaces.root] else tree.base)

/-- The way to the directory above. -/
def wayUp (way : List String) : List String :=
  if way = [SystemPlaces.root] then way
  else if way.isEmpty || way.getLast? == some upward then way ++ [upward]
  else way.dropLast

/-- The way on from `way` with the links among `rest` followed; `opened` are the links that are
being followed, at most `depth` more. If a link leads back to itself, the way to it with the names
that are left. -/
def realFrom (tree : FileTree) (depth : Nat) (opened : List (List String))
    (way rest : List String) : Except (List String) (List String) :=
  match rest with
  | [] => .ok way
  | name :: rest =>
    if name.isEmpty || name == "." then tree.realFrom depth opened way rest
    else if name == upward then tree.realFrom depth opened (wayUp way) rest
    else
      let next := way ++ [name]
      match tree.node? (tree.plainPlace next), depth with
      | some (.link _), 0 => .error (next ++ rest)
      | some (.link target), depth + 1 =>
        if opened.contains next then .error (next ++ rest)
        else match tree.realFrom depth (next :: opened) (startOf way target)
            (targetNames target) with
          | .ok there => tree.realFrom (depth + 1) opened there rest
          | .error stuck => .error (stuck ++ rest)
      | _, depth => tree.realFrom depth opened next rest
termination_by (depth, rest.length)

/-- The real place of a path. A link is met by at most two ways before it leads back to itself: from
the tree and from above it. -/
def realPlace (tree : FileTree) (path : String) : List String :=
  match tree.realFrom (2 * (tree.nodes.size + 1)) [] (startOf [] path) (Path.names path) with
  | .ok way => tree.plainPlace way
  | .error way => tree.plainPlace way

/-- Where the way to a place leads. -/
def reach (tree : FileTree) (place : List String) : Way :=
  if pathLimit < (pathOf place).utf8ByteSize then .overlong
  else if isOfSystem place then tree.follow linkLimit [SystemPlaces.root] (place.drop 1)
  else tree.follow linkLimit [] place

/-! ### Changing a tree -/

/-- Something put at a place. -/
def set (tree : FileTree) (names : List String) (node : Node) : FileTree :=
  { tree with nodes := tree.nodes.put (pathOf names) node }

/-- A directory put at a place, unless something lies there. -/
def putDirectory (tree : FileTree) (names : List String) : FileTree :=
  if (tree.node? names).isSome then tree else tree.set names .directory

/-- The place to which some names lead, even if nothing lies there yet. -/
def placeFor (tree : FileTree) (names : List String) : List String :=
  match tree.resolve (pathOf names) with
  | .place place => place
  | .absent place => place
  | _ => names

/-- A tree with a directory wherever one of some names on the way leads nowhere. -/
def openWay (tree : FileTree) (names : List String) : FileTree :=
  ((Path.initials names).drop 1 ++ [names]).foldl (fun tree names =>
    if names.isEmpty || (tree.resolve? (pathOf names)).isSome then tree
    else tree.putDirectory (tree.placeFor names)) tree

/-- Something put where a path leads, with the directories above it. A link is put at the path
itself, whatever lay there. -/
def write (tree : FileTree) (path : String) (node : Node) : FileTree :=
  let names := startOf [] path ++ Path.names path
  let opened := tree.openWay names.dropLast
  match node, names.getLast? with
  | .directory, _ => tree.openWay names
  | .link _, some name => opened.set (opened.enter (opened.placeFor names.dropLast) name) node
  | _, _ => opened.set (opened.placeFor names) node

/-- The same tree with paths that begin at a place. -/
def below (tree : FileTree) (place : List String) : FileTree :=
  { tree with base := place }

/-- The names that lead from the place at which paths begin to a place below it. -/
def namesBelow? (tree : FileTree) (place : List String) : Option (List String) :=
  if tree.base = [upward] ∧ !isOfSystem place ∧ place.head? ≠ some upward then
    some (tree.name :: place)
  else
    let names := place.drop tree.base.length
    if tree.base.isPrefixOf place && !names.isEmpty && !isOfSystem names &&
        names.head? != some upward then some names
    else none

end FileTree

end CodeBrief
