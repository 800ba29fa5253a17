/-
**When a project looks like microservices.**

Modules are kept under the stems of their file names, so that of several modules with one stem only
the last one counts (`perm_modules_read`). A project shows the pattern of microservices if more than
three of the modules that are left are services.

* `lastModules` — the paths of the modules that no later module with the same stem follows.
* `detects_microservices_iff` — the pattern is seen just if more than three of these are services. So it is
  never seen without more than three services among all paths, and it is seen whenever there are
  that many if no two modules share a stem.
-/

import CodeBrief.Project.Architecture
import CodeBrief.Proofs.Ledger

namespace CodeBrief

namespace Structure

/-! ### Modules -/

/-- The paths of the modules that no later module with the same stem follows. -/
def lastModules (paths : List String) : List String :=
  (paths.filter isModule).pwFilter fun path later => Path.stem path ≠ Path.stem later

/-- Whether a path is that of a service module. -/
def isService (path : String) : Bool :=
  isModule path && moduleKind path == "service"

/-- The modules of a layout are the last ones of each stem. -/
theorem perm_modules_read (paths : List String) (files : Ledger String) :
    ((Structure.read paths files).modules.values.map ModuleInfo.kind).Perm
      ((lastModules paths).map moduleKind) := by
  have entered : (Structure.read paths files).modules.entries.Perm
      ((lastModules paths).map fun path =>
        (Path.stem path, { path, kind := moduleKind path })) := by
    refine (Ledger.perm_entries_ofList _).trans (.of_eq ?_)
    exact List.pwFilter_map _ _
  have kinds := entered.map fun entry => entry.2.kind
  rw [List.map_map] at kinds
  rw [Ledger.values, List.map_map]
  exact kinds

theorem serviceCount_read (paths : List String) (files : Ledger String) :
    serviceCount (Structure.read paths files) = (lastModules paths).countP isService := by
  have modules : ∀ path ∈ lastModules paths, isModule path = true := by
    intro path member
    exact (List.mem_filter.mp (List.pwFilter_subset _ member)).2
  have counted := (perm_modules_read paths files).countP_eq (· == "service")
  rw [List.countP_map, List.countP_map] at counted
  refine counted.trans (List.countP_congr fun path member => ?_)
  simp [isService, modules path member]

end Structure

/-! ### The pattern -/

open Structure (isModule isService lastModules)

/-- The kinds of the patterns are different words, so that each one is seen on its own grounds. -/
theorem mem_kinds_microservices (layout : Structure) (metadata : Metadata) :
    "Microservices" ∈ (detectPatterns layout metadata).map ArchitecturalPattern.kind ↔
      3 < serviceCount layout := by
  unfold detectPatterns
  simp only [List.map_append, List.mem_append]
  constructor
  · rintro (((controllers | services) | components) | resources)
    · split at controllers <;> simp at controllers
    · split at services
      · assumption
      · cases services
    · split at components
      · split at components <;> simp at components
      · cases components
    · split at resources <;> simp at resources
  · intro many
    refine Or.inl (Or.inl (Or.inr ?_))
    rw [if_pos many]
    exact List.mem_singleton_self _

/-- **When the pattern of microservices is seen** in a project, whatever its paths, its texts and its
metadata: just if more than three of its modules are services, of several modules with one stem only
the last one being counted. So there are more than three services whenever it is seen; and if no two
modules share a stem, it is seen whenever there are. -/
theorem detects_microservices_iff (paths : List String) (files : Ledger String) (metadata : Metadata) :
    let kinds := (detectPatterns (Structure.read paths files) metadata).map
      ArchitecturalPattern.kind
    ("Microservices" ∈ kinds ↔ 3 < (lastModules paths).countP isService) ∧
      ("Microservices" ∈ kinds → 3 < paths.countP isService) ∧
      (((paths.filter isModule).map Path.stem).Nodup →
        ("Microservices" ∈ kinds ↔ 3 < paths.countP isService)) := by
  intro kinds
  have seen : "Microservices" ∈ kinds ↔ 3 < (lastModules paths).countP isService := by
    rw [mem_kinds_microservices, Structure.serviceCount_read]
  have among : (lastModules paths).countP isService ≤ paths.countP isService :=
    ((List.pwFilter_sublist _).trans List.filter_sublist).countP_le
  refine ⟨seen, fun isSeen => (seen.mp isSeen).trans_le among, fun distinct => ?_⟩
  have all : lastModules paths = paths.filter isModule :=
    List.pwFilter_eq_self.mpr (List.pairwise_map.mp distinct)
  rw [seen, all, List.countP_filter]
  refine iff_of_eq (congrArg (3 < ·) (List.countP_congr fun path _ => ?_))
  simp only [isService, Bool.and_eq_true]
  tauto

/-- Four services in files of one name. -/
theorem not_seen_sameStem :
    let paths := ["modules/cart/service.js", "modules/mail/service.js",
      "modules/order/service.js", "modules/user/service.js"]
    paths.Nodup ∧ 3 < paths.countP isService ∧
      "Microservices" ∉ (detectPatterns (Structure.read paths ∅) {}).map
        ArchitecturalPattern.kind := by
  decide +kernel

end CodeBrief
