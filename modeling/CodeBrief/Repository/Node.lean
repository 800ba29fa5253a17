/-
**Nodes of a file tree.**

* `SpecialFile` — what is neither file nor directory; `SpecialFile.reading` — what comes of reading
  it, and `SpecialFile.writing` of writing to it.
* `Node` — what lies at a place of a tree.
* `Node.size` — how many bytes it holds.
-/

namespace CodeBrief

/-- What comes of reading or writing what is no file. -/
inductive Access where
  /-- It is done: nothing is read, and what is written is lost. -/
  | done
  /-- It does not come to an end. -/
  | endless
  /-- Nothing more can be written. -/
  | full
  /-- It cannot be opened. -/
  | refused
  deriving DecidableEq, Repr

/-- What is neither file nor directory nor link. -/
inductive SpecialFile where
  /-- The device that is always empty. -/
  | null
  /-- The device that is always full; it reads like that of zeros. -/
  | full
  /-- The device of zeros. -/
  | zero
  /-- A device of random bytes. -/
  | random
  /-- A pipe without anyone at its other end. -/
  | pipe
  /-- A socket. -/
  | socket
  deriving DecidableEq, Repr

/-- What comes of reading to the end. -/
def SpecialFile.reading : SpecialFile → Access
  | .null => .done
  | .full | .zero | .random | .pipe => .endless
  | .socket => .refused

/-- What comes of writing. -/
def SpecialFile.writing : SpecialFile → Access
  | .null | .zero | .random => .done
  | .full => .full
  | .pipe => .endless
  | .socket => .refused

/-- What lies at a place of a tree. -/
inductive Node where
  /-- A file with its bytes. -/
  | file (bytes : List UInt8)
  /-- Something that is neither file nor directory. -/
  | special (kind : SpecialFile)
  /-- A directory. -/
  | directory
  /-- A link to a place, told from the directory of the link. -/
  | link (target : String)
  deriving DecidableEq, Repr

/-- The number of bytes that a node holds. -/
def Node.size : Node → Nat
  | .file bytes => bytes.length
  | _ => 0

end CodeBrief
