/-
**Architectural patterns.**

Patterns that the layout and the metadata of a project suggest, each with a confidence and the
evidence for it.

* `detectPatterns` — the patterns in a fixed order.
-/

import CodeBrief.Json.Value
import CodeBrief.Project.Metadata
import CodeBrief.Project.Structure

namespace CodeBrief

/-- A pattern that a project seems to follow. -/
structure ArchitecturalPattern where
  /-- The name of the pattern. -/
  kind : String
  /-- How sure it is, from nought to one. -/
  confidence : Binary64
  /-- What speaks for it. -/
  evidence : List String := []
  deriving DecidableEq, Repr

/-- A pattern as a JSON object. -/
def ArchitecturalPattern.toJson (pattern : ArchitecturalPattern) : Json.Value :=
  .object [("type", .string pattern.kind), ("confidence", .float pattern.confidence),
    ("evidence", .ofTexts pattern.evidence)]

/-- A number of hundredths. -/
def hundredths (n : Nat) : Binary64 :=
  Binary64.ofDecimal false n (-2)

/-- Whether the modules show models, views and controllers. -/
def showsModelViewController (layout : Structure) : Bool :=
  layout.modules.entries.any fun (name, info) =>
    ["controller", "model", "view"].contains name || ["controller", "model"].contains info.kind

/-- The number of modules that are services. -/
def serviceCount (layout : Structure) : Nat :=
  layout.modules.values.countP fun info => info.kind == "service"

/-- The patterns that a project seems to follow. -/
def detectPatterns (layout : Structure) (metadata : Metadata) : List ArchitecturalPattern :=
  (if showsModelViewController layout then
    [⟨"MVC", hundredths 80, ["Folders structure suggests MVC pattern"]⟩] else []) ++
  (if 3 < serviceCount layout then
    [⟨"Microservices", hundredths 70, ["Multiple service modules detected"]⟩] else []) ++
  (match metadata.framework with
    | some framework =>
      if ["React", "Vue"].contains framework then
        [⟨"Component-Based", hundredths 90, [framework ++ " framework"]⟩]
      else []
    | none => []) ++
  (if layout.routes.any fun route => ["GET", "POST"].contains route.method then
    [⟨"RESTful API", hundredths 85, ["HTTP methods in routes"]⟩] else [])

end CodeBrief
