/-
**The program.**

Reads the current directory into a file tree, carries out what the arguments ask for, writes back
the files that have changed, and shows the output.
-/

import CodeBrief.CommandLine.Terminal

namespace CodeBrief

/-- The bytes of a file, or none if it cannot be read. -/
def readBytes (entry : IO.FS.DirEntry) : IO (List UInt8) := do
  try
    return (← IO.FS.readBinFile entry.path).toList
  catch _ => return []

/-- The places for the entries of the directory `above`, and for what lies below those that are
directories and no links. -/
partial def readEntries (above : List String) (entries : Array IO.FS.DirEntry) :
    IO (List (String × Node)) := do
  let mut found := []
  for entry in entries do
    let names := above ++ [entry.fileName]
    if ← entry.path.isDir then
      found := found ++ [(FileTree.pathOf names, .directory)]
      if (← entry.path.symlinkMetadata).type == .dir then
        found := found ++ (← readEntries names (← entry.path.readDir))
    else if ← entry.path.pathExists then
      found := found ++ [(FileTree.pathOf names, .file (← readBytes entry))]
  return found

/-- Writes what differs between two trees below a directory. -/
def writeChanges (directory : String) (before after : FileTree) : IO Unit := do
  for (path, node) in after.nodes.entries do
    if before.nodes.get? path != some node then
      match node with
      | .file bytes => IO.FS.writeBinFile (directory ++ "/" ++ path) ⟨bytes.toArray⟩
      | .directory => IO.FS.createDirAll (directory ++ "/" ++ path)
      | _ => pure ()

/-- The width of a line where none is given. -/
def usualWidth : Nat := 80

/-- The number of cells in a line. -/
def terminalWidth : IO Nat := do
  return ((← IO.getEnv "COLUMNS").bind String.toNat?).getD usualWidth

end CodeBrief

open CodeBrief in
/-- Carries out what the arguments ask for in the current directory. -/
def main (arguments : List String) : IO UInt32 := do
  let place ← IO.currentDir
  let directory := place.toString
  let name := String.ofList (Path.fileName directory)
  let tree : FileTree := { nodes := .ofList (← readEntries [] (← place.readDir)), name }
  let root : ProjectRoot := { name, path := directory }
  let outcome := CommandLine.carryOut { width := ← terminalWidth, root, tree } arguments
  writeChanges directory tree outcome.terminal.tree
  IO.print outcome.terminal.output
  match outcome.failure with
  | some failure => IO.eprintln ("Error: " ++ failure.message)
  | none => pure ()
  return outcome.code.toUInt32
