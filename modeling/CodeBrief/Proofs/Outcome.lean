/-
**Outcomes.**

What is known of a computation that may fail when it gives a result.

* `map_eq_ok`, `mapError_eq_ok`, `bind_eq_ok` — the parts of a computation that has given a result
  have given theirs.
-/

namespace CodeBrief

variable {ε ε' α β : Type} {outcome : Except ε α}

theorem map_eq_ok {f : α → β} {result : β} :
    outcome.map f = .ok result ↔ ∃ value, outcome = .ok value ∧ f value = result := by
  cases outcome <;> simp [Except.map]

theorem mapError_eq_ok {f : ε → ε'} {result : α} :
    outcome.mapError f = .ok result ↔ outcome = .ok result := by
  cases outcome with
  | ok value =>
    show (Except.ok value : Except ε' α) = .ok result ↔ _
    rw [Except.ok.injEq, Except.ok.injEq]
  | error fault =>
    show (Except.error (f fault) : Except ε' α) = .ok result ↔ _
    exact ⟨nofun, nofun⟩

theorem bind_eq_ok {f : α → Except ε β} {result : β} :
    outcome >>= f = .ok result ↔ ∃ value, outcome = .ok value ∧ f value = .ok result := by
  cases outcome <;> simp [bind, Except.bind]

end CodeBrief
