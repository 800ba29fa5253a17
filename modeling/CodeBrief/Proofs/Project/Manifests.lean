/-
**Manifests that cannot be read.**

A manifest that is no JSON, or JSON of another shape, leaves the metadata as they are without one.
Only a manifest at which reading JSON is given up leaves no metadata at all.

* `isRecoverable_iff` — the problems with which there are metadata.
* `exists_read_iff`, `read_returns_iff` — when there are metadata, and what they are if the manifest
  is none; `not_read_longNumber` is a manifest with which there are none.
-/

import CodeBrief.Project.Metadata
import CodeBrief.Proofs.Json.Limits

namespace CodeBrief

variable {room : Nat}

namespace Manifest

theorem not_givesUp_of_parse {text : String} {members : List (CodeText × Json.Document)}
    (parsed : parse room text = .ok members) : ¬ Json.GivesUp room text := by
  rintro ⟨error, stops, -⟩
  rw [parse, stops] at parsed
  cases parsed

/-- A problem lies in the text unless reading it is given up. -/
theorem isRecoverable_iff {text : String} {problem : Problem}
    (refused : parse room text = .error problem) :
    problem.isRecoverable = true ↔ ¬ Json.GivesUp room text := by
  unfold parse at refused
  split at refused
  · rename_i error stops
    obtain rfl := Except.error.inj refused
    rw [Json.givesUp_iff stops, not_not]
    cases error with
    | malformed => exact iff_of_true rfl trivial
    | oversizedInteger => exact iff_of_false Bool.false_ne_true id
    | tooDeep => exact iff_of_false Bool.false_ne_true id
  · split at refused
    · cases refused
    · obtain rfl := Except.error.inj refused
      exact iff_of_true rfl (Json.not_givesUp_of_readDocument ‹_›)
  · obtain rfl := Except.error.inj refused
    exact iff_of_true rfl (Json.not_givesUp_of_readDocument ‹_›)

end Manifest

namespace Metadata

theorem read_none (room : Nat) (paths : List String) :
    read room paths none = .ok { language := languageOf paths } := rfl

theorem read_of_parse {paths : List String} {text : String} {members : List (CodeText × Json.Document)}
    (parsed : Manifest.parse room text = .ok members) :
    read room paths (some text) = .ok { ofManifest members with language := languageOf paths } := by
  rw [read, ofManifestText?, parsed]
  rfl

/-- A problem in the text leaves the metadata as they are without a manifest. -/
theorem read_of_isRecoverable {paths : List String} {text : String} {problem : Manifest.Problem}
    (refused : Manifest.parse room text = .error problem) (recoverable : problem.isRecoverable = true) :
    read room paths (some text) = read room paths none := by
  rw [read, ofManifestText?, refused]
  simp only [recoverable, if_true]
  rfl

theorem read_of_not_isRecoverable {paths : List String} {text : String}
    {problem : Manifest.Problem} (refused : Manifest.parse room text = .error problem)
    (lost : problem.isRecoverable = false) : read room paths (some text) = .error problem := by
  rw [read, ofManifestText?, refused]
  simp only [lost, Bool.false_eq_true, if_false]
  rfl

theorem exists_read_iff (room : Nat) (paths : List String) (text : String) :
    (∃ metadata, read room paths (some text) = .ok metadata) ↔ ¬ Json.GivesUp room text := by
  cases parsed : Manifest.parse room text with
  | ok members =>
    exact iff_of_true ⟨_, read_of_parse parsed⟩ (Manifest.not_givesUp_of_parse parsed)
  | error problem =>
    rw [← Manifest.isRecoverable_iff parsed]
    cases recoverable : problem.isRecoverable with
    | true => exact iff_of_true ⟨_, read_of_isRecoverable parsed recoverable⟩ rfl
    | false =>
      refine iff_of_false ?_ Bool.false_ne_true
      rintro ⟨metadata, given⟩
      rw [read_of_not_isRecoverable parsed recoverable] at given
      cases given

/-- **There are metadata unless reading the manifest is given up**, as it is not with a text that shows
no limit. Their language is that of the paths; and if the manifest is none, they are what they are
without it. -/
theorem read_returns_iff (room : Nat) (paths : List String) (text : String) :
    ((∃ metadata, read room paths (some text) = .ok metadata) ↔ ¬ Json.GivesUp room text) ∧
      (Json.IsModest room text.toList → ∃ metadata, read room paths (some text) = .ok metadata) ∧
      ∀ metadata, read room paths (some text) = .ok metadata →
        metadata.language = languageOf paths ∧
        ((∀ members, Manifest.parse room text ≠ .ok members) →
          metadata = { language := languageOf paths } ∧ read room paths none = .ok metadata) := by
  have returns := exists_read_iff room paths text
  refine ⟨returns, fun modest => returns.mpr (Json.not_givesUp_of_isModest modest), ?_⟩
  intro metadata given
  cases parsed : Manifest.parse room text with
  | ok members =>
    rw [read_of_parse parsed] at given
    obtain rfl := Except.ok.inj given
    exact ⟨rfl, fun none => absurd rfl (none members)⟩
  | error problem =>
    have recoverable := (Manifest.isRecoverable_iff parsed).mpr (returns.mp ⟨metadata, given⟩)
    rw [read_of_isRecoverable parsed recoverable, read_none] at given
    obtain rfl := Except.ok.inj given
    exact ⟨rfl, fun _ => ⟨rfl, rfl⟩⟩

theorem givesUp_nines (room : Nat) {count : Nat} (long : Text.digitLimit < count) :
    Json.GivesUp room (String.ofList (List.replicate count '9')) := by
  refine Json.givesUp_digits ⟨fun c member => ?_, ?_, .inr ?_⟩ (by rwa [List.length_replicate]) room
  · rw [List.eq_of_mem_replicate member]
    rfl
  · rw [ne_eq, List.replicate_eq_nil_iff]
    exact Nat.ne_of_gt (Nat.zero_lt_of_lt long)
  · rw [List.head?_replicate]
    split <;> simp

/-- A manifest of one number with more digits than there may be. -/
def longNumber : String :=
  String.ofList (List.replicate 4301 '9')

/-- A number that is too long leaves no metadata. -/
theorem not_read_longNumber :
    ¬ ∃ metadata, read Json.usualRoom ["a.js"] (some longNumber) = .ok metadata := by
  rw [exists_read_iff, not_not]
  exact givesUp_nines Json.usualRoom (by decide)

end Metadata

end CodeBrief
