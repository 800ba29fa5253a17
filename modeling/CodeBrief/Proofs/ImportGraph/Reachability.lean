/-
**Reachability by rounds.**

`reachWithin` follows edges from a frontier, round after round, and passes on only what is new. As
every round but the last one finds a new place, a graph of `n` places needs no more than `n` rounds.

* `reachWithin_induction` — what every round keeps is true of what is found.
* `reaches_of_mem_reachWithin` — what is found can be reached.
* `reachWithin_closed` — if there are enough rounds, no edge leads out of what is found.
* `mem_reachWithin_iff` — what is found from a place is what can be reached from it.
-/

import CodeBrief.Proofs.ImportGraph.Importers
import Mathlib.Logic.Relation

namespace CodeBrief.ImportGraph

open Relation (ReflTransGen)

/-! ### Rounds -/

section Rounds

variable {edges : List (String × String)}

/-- An edge leads from one place to another. -/
def Leads (edges : List (String × String)) (source target : String) : Prop :=
  (source, target) ∈ edges

theorem mem_successors {starts : List String} {place : String} :
    place ∈ successors edges starts ↔ ∃ start ∈ starts, Leads edges start place := by
  unfold successors Leads
  rw [List.mem_map]
  constructor
  · rintro ⟨⟨start, place⟩, member, rfl⟩
    obtain ⟨inside, begins⟩ := List.mem_filter.mp member
    exact ⟨start, List.contains_iff_mem.mp begins, inside⟩
  · rintro ⟨start, begins, inside⟩
    exact ⟨(start, place), List.mem_filter.mpr ⟨inside, List.contains_iff_mem.mpr begins⟩, rfl⟩

/-- The places that are new after a round. -/
def newPlaces (edges : List (String × String)) (frontier reached : List String) : List String :=
  ((successors edges frontier).filter fun place => !reached.contains place).eraseDups

theorem mem_newPlaces {frontier reached : List String} {place : String} :
    place ∈ newPlaces edges frontier reached ↔
      (∃ start ∈ frontier, Leads edges start place) ∧ place ∉ reached := by
  unfold newPlaces
  rw [List.mem_eraseDups, List.mem_filter, mem_successors]
  simp

theorem nodup_append_newPlaces {frontier reached : List String} (distinct : reached.Nodup) :
    (reached ++ newPlaces edges frontier reached).Nodup := by
  refine List.nodup_append.mpr ⟨distinct, nodup_eraseDups _, fun place old other new same => ?_⟩
  exact (mem_newPlaces.mp new).2 (same ▸ old)

theorem reachWithin_of_none {frontier reached : List String}
    (none : newPlaces edges frontier reached = []) (rounds : Nat) :
    reachWithin edges rounds frontier reached = reached := by
  cases rounds with
  | zero => rfl
  | succ rounds =>
    unfold newPlaces at none
    rw [reachWithin, none]

theorem reachWithin_of_some {frontier reached : List String}
    (some : newPlaces edges frontier reached ≠ []) (rounds : Nat) :
    reachWithin edges (rounds + 1) frontier reached =
      reachWithin edges rounds (newPlaces edges frontier reached)
        (reached ++ newPlaces edges frontier reached) := by
  unfold newPlaces at some ⊢
  rw [reachWithin]
  split
  · rename_i none
    exact absurd none some
  · rfl

/-- A fact about what has been reached holds in the end if every round keeps it. -/
theorem reachWithin_induction {motive : List String → List String → Prop}
    (round : ∀ frontier reached, motive frontier reached →
      motive (newPlaces edges frontier reached) (reached ++ newPlaces edges frontier reached))
    (rounds : Nat) (frontier reached : List String) (start : motive frontier reached) :
    ∃ last, motive last (reachWithin edges rounds frontier reached) := by
  induction rounds generalizing frontier reached with
  | zero => exact ⟨frontier, start⟩
  | succ rounds ih =>
    by_cases none : newPlaces edges frontier reached = []
    · rw [reachWithin_of_none none]
      exact ⟨frontier, start⟩
    · rw [reachWithin_of_some none]
      exact ih _ _ (round frontier reached start)

theorem mem_reachWithin_of_mem {rounds : Nat} {frontier reached : List String} {place : String}
    (member : place ∈ reached) : place ∈ reachWithin edges rounds frontier reached := by
  obtain ⟨_, kept⟩ := reachWithin_induction (motive := fun _ found => place ∈ found)
    (fun _ _ old => List.mem_append_left _ old) rounds frontier reached member
  exact kept

theorem nodup_reachWithin {rounds : Nat} {frontier reached : List String}
    (distinct : reached.Nodup) : (reachWithin edges rounds frontier reached).Nodup := by
  obtain ⟨_, kept⟩ := reachWithin_induction (motive := fun _ found => found.Nodup)
    (fun _ _ old => nodup_append_newPlaces old) rounds frontier reached distinct
  exact kept

/-- **What is found can be reached.** -/
theorem reaches_of_mem_reachWithin {rounds : Nat} {start place : String}
    (member : place ∈ reachWithin edges rounds [start] [start]) :
    ReflTransGen (Leads edges) start place := by
  -- Both what has been reached and the frontier can be reached.
  obtain ⟨_, -, kept⟩ := reachWithin_induction
    (motive := fun frontier found => (∀ place ∈ frontier, ReflTransGen (Leads edges) start place) ∧
      ∀ place ∈ found, ReflTransGen (Leads edges) start place)
    (fun frontier reached ⟨fromFrontier, fromReached⟩ => by
      have new : ∀ place ∈ newPlaces edges frontier reached,
          ReflTransGen (Leads edges) start place := by
        intro place member
        obtain ⟨⟨before, inFrontier, edge⟩, -⟩ := mem_newPlaces.mp member
        exact (fromFrontier before inFrontier).tail edge
      refine ⟨new, fun place member => ?_⟩
      rcases List.mem_append.mp member with old | found
      · exact fromReached place old
      · exact new place found)
    rounds [start] [start]
    ⟨by simpa using ReflTransGen.refl, by simpa using ReflTransGen.refl⟩
  exact kept place member

/-- Some of the places of a graph have been reached, and the edges from all of them but the frontier
have been followed. -/
structure Explored (edges : List (String × String)) (places frontier reached : List String) :
    Prop where
  /-- No place is listed twice. -/
  distinct : reached.Nodup
  /-- Only places of the graph have been reached. -/
  inside : ∀ place ∈ reached, place ∈ places
  /-- An edge that has not been followed begins in the frontier. -/
  followed : ∀ source ∈ reached, ∀ target, Leads edges source target →
    source ∈ frontier ∨ target ∈ reached

theorem Explored.round {places frontier reached : List String}
    (explored : Explored edges places frontier reached)
    (closed : ∀ source target, Leads edges source target → target ∈ places) :
    Explored edges places (newPlaces edges frontier reached)
      (reached ++ newPlaces edges frontier reached) where
  distinct := nodup_append_newPlaces explored.distinct
  inside place member := by
    rcases List.mem_append.mp member with old | new
    · exact explored.inside place old
    · obtain ⟨⟨source, -, edge⟩, -⟩ := mem_newPlaces.mp new
      exact closed source place edge
  followed source member target edge := by
    rcases List.mem_append.mp member with old | new
    · refine Or.inr (List.mem_append.mpr ?_)
      rcases explored.followed source old target edge with inFrontier | reached
      · -- The edge is followed in this round: its end is new or has been reached before.
        by_cases known : target ∈ reached
        · exact Or.inl known
        · exact Or.inr (mem_newPlaces.mpr ⟨⟨source, inFrontier, edge⟩, known⟩)
      · exact Or.inl reached
    · exact Or.inl new

/-- **With enough rounds, no edge leads out of what is found.** -/
theorem reachWithin_closed {places frontier reached : List String} {rounds : Nat}
    (closed : ∀ source target, Leads edges source target → target ∈ places)
    (explored : Explored edges places frontier reached)
    (enough : places.length ≤ rounds + reached.length) {source target : String}
    (member : source ∈ reachWithin edges rounds frontier reached)
    (edge : Leads edges source target) : target ∈ reachWithin edges rounds frontier reached := by
  induction rounds generalizing frontier reached with
  | zero =>
    -- All places have been reached.
    have all : places ⊆ reached :=
      (explored.distinct.subperm explored.inside).perm_of_length_le (by omega) |>.symm.subset
    exact all (closed source target edge)
  | succ rounds ih =>
    by_cases none : newPlaces edges frontier reached = []
    · rw [reachWithin_of_none none] at member ⊢
      rcases explored.followed source member target edge with inFrontier | reached
      · by_contra unknown
        have new := mem_newPlaces.mpr ⟨⟨source, inFrontier, edge⟩, unknown⟩
        rw [none] at new
        exact List.not_mem_nil new
      · exact reached
    · rw [reachWithin_of_some none] at member ⊢
      have found : 0 < (newPlaces edges frontier reached).length := List.length_pos_iff.mpr none
      refine ih (explored.round closed) ?_ member
      rw [List.length_append]
      omega

/-- **What is found from a place is what can be reached from it.** -/
theorem mem_reachWithin_iff {places : List String} {start place : String}
    (closed : ∀ source target, Leads edges source target → target ∈ places)
    (begins : start ∈ places) :
    place ∈ reachWithin edges places.length [start] [start] ↔
      ReflTransGen (Leads edges) start place := by
  constructor
  · exact reaches_of_mem_reachWithin
  · intro path
    have explored : Explored edges places [start] [start] :=
      { distinct := List.nodup_singleton start
        inside := by simpa using begins
        followed := fun source member _ _ => Or.inl member }
    induction path with
    | refl => exact mem_reachWithin_of_mem (List.mem_singleton_self start)
    | tail _ edge ih => exact reachWithin_closed closed explored (Nat.le_add_right _ _) ih edge

end Rounds

end CodeBrief.ImportGraph
