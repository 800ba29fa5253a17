/-
**What a tree asks to leave out, and whether it can be listed.**

A tree may hold a file that tells what is left out of its listing. Nothing else is read for a
listing; its bytes have to spell a text, the way to it must not be too long, and what lies in its place
must have an end. Everything else about a tree is looked at without reading it.

* `resolve_ignoreFile`, `find?_ignoreFile` — the way to that file, unless a link lies there.
* `ignored_of_text`, `ignored_returns_iff` — what is left out, and when that can be told.
* `list_returns_iff` — when there is a listing; `not_listed_strayByte` is a tree without one.
-/

import CodeBrief.Proofs.Outcome
import CodeBrief.Proofs.Repository.Ways
import CodeBrief.Proofs.Text.Utf8
import CodeBrief.Repository.Listing

namespace CodeBrief.FileTree

variable {tree : FileTree}

/-! ### The way to the file -/

theorem node?_ignoreFile (tree : FileTree) :
    tree.node? [ignoreFile] = tree.nodes.get? ignoreFile := by
  have below : isAtOrAbove [ignoreFile] = false := by decide
  have path : pathOf [ignoreFile] = ignoreFile := by decide
  have ofTree : SystemPlaces.node? [ignoreFile] = none := by decide
  rw [node?, below, path, ofTree, if_neg Bool.false_ne_true]
  cases tree.nodes.get? ignoreFile <;> rfl

section NoLink

variable (base : tree.base = [])
  (noLink : ∀ target, tree.nodes.get? ignoreFile ≠ some (.link target))
include base noLink

/-- The way to the file with the paths that are left out ends there. -/
theorem resolve_ignoreFile :
    tree.resolve ignoreFile =
      if (tree.nodes.get? ignoreFile).isSome then .place [ignoreFile] else .absent [ignoreFile] := by
  have short : ¬ pathLimit < ignoreFile.utf8ByteSize := by decide
  have names : Path.names ignoreFile = [ignoreFile] := by decide
  have start : startOf [] ignoreFile = [] := by decide
  have entry : IsEntry ignoreFile := ⟨by decide, by decide, by decide⟩
  have entered : tree.enter [] ignoreFile = [ignoreFile] := if_neg (by simp)
  have lies := node?_ignoreFile tree
  rw [← entered] at lies
  rw [resolve, if_neg short, base, names, start]
  cases there : tree.nodes.get? ignoreFile with
  | none => exact (follow_absent entry (lies.trans there)).trans (congrArg Way.absent entered)
  | some node =>
    by_cases directory : node = .directory
    · rw [follow_into entry (lies.trans (there.trans (congrArg some directory))), follow_nil, entered]
      rfl
    · have isEnd : IsEnd (some node) := by
        refine ⟨fun same => directory (Option.some.inj same), fun target same => ?_⟩
        exact noLink target (there.trans same)
      exact (follow_last entry isEnd (lies.trans there)).trans (congrArg Way.place entered)

theorem resolve_ignoreFile_ne_overlong : tree.resolve ignoreFile ≠ .overlong := by
  rw [resolve_ignoreFile base noLink]
  split <;> nofun

theorem find?_ignoreFile : tree.find? ignoreFile = tree.nodes.get? ignoreFile := by
  rw [find?, resolve?, resolve_ignoreFile base noLink]
  cases there : tree.nodes.get? ignoreFile with
  | none => rfl
  | some node => exact (node?_ignoreFile tree).trans there

end NoLink

/-! ### What is left out -/

/-- Whatever lies at the end of the way to a path, it can be read to an end. -/
def Ends (tree : FileTree) (path : String) : Prop :=
  ∀ kind, tree.find? path = some (.special kind) → kind.reading ≠ .endless

theorem ignored_of_none (short : tree.resolve ignoreFile ≠ .overlong)
    (ends : tree.Ends ignoreFile) (nothing : tree.bytes? ignoreFile = none) :
    tree.ignored = .ok [] := by
  unfold ignored
  split
  · exact absurd ‹_› short
  · rename_i lies _
    rw [bytes?, lies] at nothing
    cases nothing
  · rename_i kind lies _
    exact if_neg (ends kind lies)
  · rfl

/-- Something without an end tells nothing. -/
theorem ignored_of_endless {kind : SpecialFile}
    (lies : tree.find? ignoreFile = some (.special kind)) (endless : kind.reading = .endless) :
    tree.ignored = .error .endless := by
  unfold ignored
  split
  · exact absurd ‹_› (resolve_ne_overlong lies)
  · rename_i file _
    rw [lies] at file
    cases file
  · rename_i lies' _
    obtain rfl : _ = kind := by simpa using lies'.symm.trans lies
    exact if_pos endless
  · rename_i other
    exact absurd lies (other kind)

theorem ignored_of_some {bytes : List UInt8} (found : tree.bytes? ignoreFile = some bytes) :
    tree.ignored = ((Text.Utf8.decode? bytes).map fun text =>
      ignorePatterns (Text.unifyBreaks text)).mapError .undecodable := by
  have lies := find?_of_bytes? found
  unfold ignored
  split
  · exact absurd ‹_› (resolve_ne_overlong lies)
  · rename_i bytes' lies' _
    obtain rfl : bytes' = bytes := by simpa using lies'.symm.trans lies
    cases Text.Utf8.decode? bytes' <;> rfl
  · rename_i special _
    rw [lies] at special
    cases special
  · rename_i other _
    exact absurd lies (other bytes)

/-- What a tree asks to leave out is told by a text. -/
theorem ignored_of_text {text : String}
    (told : tree.bytes? ignoreFile = some text.toUTF8.toList) :
    tree.ignored = .ok (ignorePatterns (Text.unifyBreaks text.toList)) := by
  rw [ignored_of_some told, Text.Utf8.decode_toUTF8]
  rfl

/-- It can be told what a tree asks to leave out unless what should tell it has no end, or is bytes
that are no text. -/
theorem ignored_returns_iff :
    (∃ own, tree.ignored = .ok own) ↔ tree.resolve ignoreFile ≠ .overlong ∧
      tree.Ends ignoreFile ∧
      ∀ bytes, tree.bytes? ignoreFile = some bytes → ∃ text : String, bytes = text.toUTF8.toList := by
  constructor
  · rintro ⟨own, told⟩
    refine ⟨fun overlong => ?_, fun kind lies endless => ?_, fun bytes found => ?_⟩
    · unfold ignored at told
      rw [overlong] at told
      cases told
    · rw [ignored_of_endless lies endless] at told
      cases told
    · rw [ignored_of_some found] at told
      obtain ⟨text, read, -⟩ := map_eq_ok.mp (mapError_eq_ok.mp told)
      exact ⟨_, Text.Utf8.decode?_eq_ok_iff.mp read⟩
  · rintro ⟨short, ends, spelled⟩
    cases found : tree.bytes? ignoreFile with
    | none => exact ⟨[], ignored_of_none short ends found⟩
    | some bytes =>
      obtain ⟨text, rfl⟩ := spelled bytes found
      exact ⟨_, ignored_of_text found⟩

/-! ### Listings -/

theorem list_eq_ok_iff {patterns : List String} {maxSize : Int} {entries : List Entry} :
    tree.list patterns maxSize = .ok entries ↔ ∃ own, tree.ignored = .ok own ∧
      tree.listWithout (patterns ++ own) (maxSize * sizeUnit) = entries :=
  map_eq_ok

theorem list_returns_iff_ignored (tree : FileTree) (patterns : List String) (maxSize : Int) :
    (∃ entries, tree.list patterns maxSize = .ok entries) ↔ ∃ own, tree.ignored = .ok own := by
  constructor
  · rintro ⟨entries, listed⟩
    obtain ⟨own, told, -⟩ := list_eq_ok_iff.mp listed
    exact ⟨own, told⟩
  · rintro ⟨own, told⟩
    exact ⟨_, list_eq_ok_iff.mpr ⟨own, told, rfl⟩⟩

/-- **A tree can be listed just if what tells what is left out, should there be anything, has an
end and is a text if it is a file**, and no name on the way to it is too long, as only that of a link
can be. What else lies in the tree, what its files hold and what the settings are has no say in
this. -/
theorem list_returns_iff (tree : FileTree) (patterns : List String) (maxSize : Int) :
    ((∃ entries, tree.list patterns maxSize = .ok entries) ↔
      tree.resolve ignoreFile ≠ .overlong ∧
        (∀ kind, tree.find? ignoreFile = some (.special kind) → kind.reading ≠ .endless) ∧
        ∀ bytes, tree.bytes? ignoreFile = some bytes →
          ∃ text : String, bytes = text.toUTF8.toList) ∧
    (tree.base = [] → (∀ target, tree.nodes.get? ignoreFile ≠ some (.link target)) →
      ((∃ entries, tree.list patterns maxSize = .ok entries) ↔
        (∀ kind, tree.nodes.get? ignoreFile = some (.special kind) → kind.reading ≠ .endless) ∧
          ∀ bytes, tree.nodes.get? ignoreFile = some (.file bytes) →
            ∃ text : String, bytes = text.toUTF8.toList)) := by
  rw [list_returns_iff_ignored, ignored_returns_iff]
  refine ⟨Iff.rfl, fun base noLink => ?_⟩
  have short := resolve_ignoreFile_ne_overlong base noLink
  have same := find?_ignoreFile base noLink
  rw [Ends, same]
  constructor
  · rintro ⟨-, ends, spelled⟩
    refine ⟨ends, fun bytes lies => spelled bytes ?_⟩
    rw [bytes?, same, lies]
  · rintro ⟨ends, spelled⟩
    refine ⟨short, ends, fun bytes found => spelled bytes ?_⟩
    rw [← same]
    exact find?_of_bytes? found

/-- A directory in which a byte that begins no character stands where the paths to leave out are
told. -/
def strayByte : FileTree where
  nodes := .ofList [(ignoreFile, .file [0xFF]), ("a.js", .file [0x78])]

/-- A directory with one stray byte is not listed. -/
theorem not_listed_strayByte : ¬ ∃ entries, strayByte.list [] 500 = .ok entries := by
  have found : strayByte.nodes.get? ignoreFile = some (.file [0xFF]) := by decide
  have noLink : ∀ target, strayByte.nodes.get? ignoreFile ≠ some (.link target) := by
    rw [found]
    nofun
  have bytes : strayByte.bytes? ignoreFile = some [0xFF] := by
    rw [bytes?, find?_ignoreFile rfl noLink, found]
  rintro ⟨entries, listed⟩
  obtain ⟨own, told, -⟩ := list_eq_ok_iff.mp listed
  rw [ignored_of_some bytes] at told
  cases told

end CodeBrief.FileTree
