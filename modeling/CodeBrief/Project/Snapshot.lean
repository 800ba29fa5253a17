/-
**Snapshots.**

A snapshot holds all that an analysis finds out about a repository at one time: metadata, layout,
patterns, imports, figures, risky constructs and the index of the contents.

* `Snapshot.ofContents` — the snapshot of the files at some paths with the texts that are known.
* `Snapshot.health` — the report on a snapshot.
-/

import CodeBrief.Project.Health

namespace CodeBrief

/-- What is known about a repository at one time. -/
structure Snapshot where
  /-- What its manifest says. -/
  metadata : Metadata := {}
  /-- How it is laid out. -/
  layout : Structure := {}
  /-- The patterns that it follows. -/
  patterns : List ArchitecturalPattern := []
  /-- Who imports whom. -/
  graph : ImportGraph := {}
  /-- The figures about its code. -/
  quality : Quality := {}
  /-- The risky constructs in its code. -/
  security : List Script.SecurityFinding := []
  /-- Its contents. -/
  index : Index := {}
  deriving Inhabited

namespace Snapshot

/-- The snapshot of the files at `paths`, of which those in `files` have known texts; the manifest
among them is read with `room` for values within each other. -/
def ofContents (room : Nat) (paths : List String) (files : Ledger String) :
    Except Manifest.Problem Snapshot :=
  (Metadata.read room paths (files.get? Manifest.fileName)).map fun metadata =>
    let layout := Structure.read paths files
    let graph := ImportGraph.build files
    let index := Index.build files
    { metadata
      layout
      patterns := detectPatterns layout metadata
      graph
      quality := Quality.measure index graph
      security := scanSecurity files
      index }

/-- What a report on a snapshot is made from. -/
def findings (snapshot : Snapshot) : Findings where
  metadata := snapshot.metadata
  patterns := snapshot.patterns
  quality := snapshot.quality
  security := snapshot.security
  commentedFiles := snapshot.index.comments.size

/-- The report on a snapshot. -/
def health (snapshot : Snapshot) : HealthReport :=
  .assess snapshot.findings

end Snapshot

end CodeBrief
