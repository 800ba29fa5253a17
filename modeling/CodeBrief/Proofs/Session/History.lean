/-
**The history of a session.**

A session begins with settings and then takes operation after operation: repositories are analysed,
exchanges are remembered, files touched, briefs asked for. An analysis that fails leaves the session
as it was.

* `Session.Operation`, `Session.after`, `Session.run` — operations, and sessions after them.
* `Session.HoldsContents` — that the snapshot comes from one analysis of some contents, so that its
  parts fit together.
* `holdsContents_run` — whatever its history, a session holds contents. At first these are no files
  at all (`ofContents_empty`); later only an analysis that succeeds touches the snapshot.
-/

import CodeBrief.Session.Basic
import CodeBrief.Proofs.Outcome

namespace CodeBrief

/-! ### Snapshots of contents -/

namespace Snapshot

/-- A session begins with the snapshot of no files. -/
theorem ofContents_empty (room : Nat) : ofContents room [] ∅ = .ok {} := rfl

variable {room : Nat} {paths : List String} {files : Ledger String} {snapshot : Snapshot}

theorem index_ofContents (read : ofContents room paths files = .ok snapshot) :
    snapshot.index = .build files := by
  obtain ⟨metadata, -, rfl⟩ := map_eq_ok.mp read
  rfl

theorem graph_ofContents (read : ofContents room paths files = .ok snapshot) :
    snapshot.graph = .build files := by
  obtain ⟨metadata, -, rfl⟩ := map_eq_ok.mp read
  rfl

theorem patterns_ofContents (read : ofContents room paths files = .ok snapshot) :
    snapshot.patterns = detectPatterns snapshot.layout snapshot.metadata := by
  obtain ⟨metadata, -, rfl⟩ := map_eq_ok.mp read
  rfl

end Snapshot

namespace Session

/-- The snapshot comes from one analysis of some contents. -/
def HoldsContents (session : Session) : Prop :=
  ∃ room paths files, Snapshot.ofContents room paths files = .ok session.snapshot

/-! ### Operations -/

/-- What a session is asked to do. -/
inductive Operation where
  /-- To analyse a listing whose files are loaded. -/
  | analyze (room : Nat) (entries : List Entry) (loader : Loader) (choices : List Nat)
  /-- To analyse a file tree. -/
  | analyzeTree (room : Nat) (tree : FileTree)
  /-- To remember an exchange. -/
  | remember (now : Moment) (exchange : Exchange)
  /-- To note that a file has been touched. -/
  | touch (path : String)
  /-- To set or clear the focus. -/
  | setFocus (focus : Option String)
  /-- To put a brief together. -/
  | ask (query : String) (options : BriefOptions)

/-- A session after an operation. -/
def after (session : Session) : Operation → Session
  | .analyze room entries loader choices =>
    match session.analyze room entries loader choices with
    | .ok (next, _) => next
    | .error _ => session
  | .analyzeTree room tree =>
    match session.analyzeTree room tree with
    | .ok next => next
    | .error _ => session
  | .remember now exchange => session.remember now exchange
  | .touch path => session.touch path
  | .setFocus focus => session.setFocus focus
  | .ask query options => (session.brief query options).1

/-- A session after some operations. -/
def run (session : Session) (operations : List Operation) : Session :=
  operations.foldl after session

/-! ### What operations do to the snapshot -/

theorem holdsContents_withSettings (settings : Settings) :
    (withSettings settings).HoldsContents :=
  ⟨0, [], ∅, Snapshot.ofContents_empty 0⟩

/-- An analysis that succeeds puts a snapshot of the loaded texts in the place of the old one. -/
theorem holdsContents_of_analyze {session next : Session} {room : Nat} {entries : List Entry}
    {loader : Loader} {choices : List Nat} {progress : List Progress}
    (done : session.analyze room entries loader choices = .ok (next, progress)) :
    next.HoldsContents := by
  unfold analyze at done
  obtain ⟨⟨files, fetched⟩, -, rest⟩ := bind_eq_ok.mp done
  obtain ⟨snapshot, read, same⟩ := bind_eq_ok.mp rest
  cases same
  exact ⟨room, _, files, mapError_eq_ok.mp read⟩

theorem snapshot_focusOn (session : Session) (options : BriefOptions) :
    (session.focusOn options).snapshot = session.snapshot := by
  unfold focusOn
  split <;> rfl

theorem HoldsContents.focusOn {session : Session} (held : session.HoldsContents)
    (options : BriefOptions) : (session.focusOn options).HoldsContents := by
  unfold HoldsContents
  rw [snapshot_focusOn]
  exact held

/-- One operation. -/
theorem holdsContents_after {session : Session} (held : session.HoldsContents)
    (operation : Operation) : (session.after operation).HoldsContents := by
  cases operation with
  | analyze room entries loader choices =>
    simp only [after]
    split
    · rename_i next progress done
      exact holdsContents_of_analyze done
    · exact held
  | analyzeTree room tree =>
    simp only [after]
    split
    · rename_i next done
      unfold analyzeTree at done
      obtain ⟨entries, -, rest⟩ := bind_eq_ok.mp done
      obtain ⟨⟨analysed, progress⟩, analysis, same⟩ := bind_eq_ok.mp rest
      cases same
      exact holdsContents_of_analyze analysis
    · exact held
  | remember now exchange => exact held
  | touch path => exact held
  | setFocus focus => exact held
  | ask query options => exact held.focusOn options

/-- **Whatever its history, a session holds contents.** -/
theorem holdsContents_run {session : Session} (held : session.HoldsContents)
    (operations : List Operation) : (session.run operations).HoldsContents := by
  induction operations generalizing session with
  | nil => exact held
  | cons operation rest ih => exact ih (holdsContents_after held operation)

end Session

end CodeBrief
