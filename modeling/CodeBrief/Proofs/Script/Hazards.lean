/-
**Risky constructs, part by part.**

A script is searched line by line, and what is found on a line depends on that line alone. So a text
that is cut behind a line feed has the findings of its two parts, where those of the second one are
numbered from the lines of the first one on, and files have the findings of each one.

* `hazardsFrom_eq` — the findings of some lines, each from its line and its number.
* `hazardsFrom_append`, `hazardsFrom_add` — lines one after another, and lines that are numbered
  from further on.
* `scanSecurity_file` — the findings of one file.
* `scanSecurity_compositional` — texts and files put together.
-/

import CodeBrief.Project.Quality
import CodeBrief.Proofs.Ledger
import CodeBrief.Proofs.Text.Lines
import Mathlib.Data.List.Basic

namespace CodeBrief

namespace Script

/-- The findings of one line of a file, in the order in which a line is searched. -/
def findingsOn (path : String) (line : List Char) (number : Nat) : List SecurityFinding :=
  (hazards.filter fun hazard => hazard.isIn line).map fun hazard =>
    ⟨hazard.name, path, number, hazard.severity⟩

/-- A finding some lines further down. -/
def SecurityFinding.moveDown (count : Nat) (finding : SecurityFinding) : SecurityFinding :=
  { finding with line := finding.line + count }

theorem hazardsFrom_cons (path : String) (number : Nat) (line : List Char)
    (rest : List (List Char)) : hazardsFrom path number (line :: rest) =
      findingsOn path line number ++ hazardsFrom path (number + 1) rest := rfl

/-- **Each line has its own findings**, with its number. -/
theorem hazardsFrom_eq (path : String) (number : Nat) (lines : List (List Char)) :
    hazardsFrom path number lines =
      (lines.zipIdx number).flatMap fun entry => findingsOn path entry.1 entry.2 := by
  induction lines generalizing number with
  | nil => rfl
  | cons line rest ih =>
    rw [hazardsFrom_cons, ih, List.zipIdx_cons, List.flatMap_cons]

theorem hazardsFrom_append (path : String) (number : Nat) (above below : List (List Char)) :
    hazardsFrom path number (above ++ below) =
      hazardsFrom path number above ++ hazardsFrom path (number + above.length) below := by
  simp only [hazardsFrom_eq, List.zipIdx_append, List.flatMap_append]

theorem findingsOn_add (path : String) (line : List Char) (number count : Nat) :
    findingsOn path line (number + count) =
      (findingsOn path line number).map (SecurityFinding.moveDown count) := by
  unfold findingsOn SecurityFinding.moveDown
  rw [List.map_map]
  exact List.map_congr_left fun hazard _ => by simp

/-- Lines that are numbered from further on have their findings further down. -/
theorem hazardsFrom_add (path : String) (number count : Nat) (lines : List (List Char)) :
    hazardsFrom path (number + count) lines =
      (hazardsFrom path number lines).map (SecurityFinding.moveDown count) := by
  induction lines generalizing number with
  | nil => rfl
  | cons line rest ih =>
    rw [hazardsFrom_cons, hazardsFrom_cons, List.map_append, findingsOn_add, ← ih,
      Nat.add_right_comm]

/-- **The findings of a text that is cut behind a line feed.** -/
theorem hazardsIn_append (path : String) (above below : List Char) :
    hazardsIn path (above ++ '\n' :: below) = hazardsIn path (above ++ ['\n']) ++
      (hazardsIn path below).map
        (SecurityFinding.moveDown (Text.lines (above ++ ['\n'])).length) := by
  unfold hazardsIn
  rw [Text.lines_append_newLine, hazardsFrom_append, hazardsFrom_add]

end Script

open Script (SecurityFinding)

theorem scanSecurity_eq (files : Ledger String) :
    scanSecurity files = (files.entries.filter fun file => Path.isScript file.1).flatMap
      fun file => Script.hazardsIn file.1 file.2.toList := rfl

/-- The findings of one file: none, unless it is a script. -/
theorem scanSecurity_file (path content : String) :
    scanSecurity (.ofList [(path, content)]) =
      if Path.isScript path then Script.hazardsIn path content.toList else [] := by
  have entries : (Ledger.ofList [(path, content)]).entries = [(path, content)] :=
    Ledger.entries_ofList (List.nodup_singleton path)
  rw [scanSecurity_eq, entries]
  by_cases isScript : Path.isScript path = true
  · rw [List.filter_cons_of_pos (by exact isScript), if_pos isScript]
    exact List.append_nil _
  · rw [List.filter_cons_of_neg (by exact isScript), if_neg isScript]
    rfl

/-- **Findings are put together part by part.** A script has the findings of each of its lines, with
the number of the line, counted from one, in the order in which a line is searched, and other files
have none. A text with a line feed in it has the findings of what goes up to the line feed, and then
those of what follows, further down by as many lines as go up to the line feed. And several files
have the findings of each script among them, in their order. -/
theorem scanSecurity_compositional :
    (∀ path content : String, scanSecurity (.ofList [(path, content)]) =
      if Path.isScript path then
        ((Text.lines content.toList).zipIdx 1).flatMap fun (line, number) =>
          (Script.hazards.filter fun hazard => hazard.isIn line).map fun hazard =>
            { kind := hazard.name, path, line := number, severity := hazard.severity }
      else []) ∧
      (∀ path above below : String,
        scanSecurity (.ofList [(path, above ++ "\n" ++ below)]) =
          scanSecurity (.ofList [(path, above ++ "\n")]) ++
            (scanSecurity (.ofList [(path, below)])).map fun finding =>
              { finding with
                line := finding.line + (Text.lines (above ++ "\n").toList).length }) ∧
      ∀ files : Ledger String, scanSecurity files =
        (files.entries.filter fun file => Path.isScript file.1).flatMap fun file =>
          scanSecurity (.ofList [file]) := by
  refine ⟨fun path content => ?_, fun path above below => ?_, fun files => ?_⟩
  · rw [scanSecurity_file, Script.hazardsIn, Script.hazardsFrom_eq]
    rfl
  · rw [scanSecurity_file, scanSecurity_file, scanSecurity_file]
    split
    · have parts := Script.hazardsIn_append path above.toList below.toList
      rw [String.toList_append, String.toList_append, List.append_assoc]
      exact parts
    · rfl
  · rw [scanSecurity_eq]
    refine List.flatMap_congr fun file member => ?_
    have isScript := (List.mem_filter.mp member).2
    rw [scanSecurity_file, if_pos isScript]

end CodeBrief
