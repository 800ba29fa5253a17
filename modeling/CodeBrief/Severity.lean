/-
**Severity.**

The three levels of findings, impacts and efforts.

* `Severity.name` — the word for a level.
-/

namespace CodeBrief

/-- A level. -/
inductive Severity where
  /-- The least level. -/
  | low
  /-- The middle level. -/
  | medium
  /-- The greatest level. -/
  | high
  deriving DecidableEq, Repr, Inhabited

/-- The word for a level. -/
def Severity.name : Severity → String
  | .low => "low"
  | .medium => "medium"
  | .high => "high"

end CodeBrief
