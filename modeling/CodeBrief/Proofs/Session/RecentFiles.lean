/-
**What one more touch does to the recent files.**

A memory that has been used in any way lists no recent file twice, and not more of them than its
limit. So one more touch brings in at most one file, and throws out at most one: the last one of a
full list, if the touched file is new to it.

* `nodup_recentFiles_run`, `length_recentFiles_run_le` — recent files after any calls.
* `evicted?` — the file that a new one would throw out.
* `mem_recentFiles_touch_of_mem`, `mem_recentFiles_touch_of_not_mem` — the recent files after one
  more touch.
-/

import CodeBrief.Proofs.Session.MemoryHistory

namespace CodeBrief.Memory

section Reached

variable (limits : MemoryLimits) (calls : List Call)

theorem limits_run : ((withLimits limits).run calls).limits = limits :=
  (remembers_run limits calls).sameLimits

theorem nodup_recentFiles_run : ((withLimits limits).run calls).recentFiles.Nodup := by
  rw [(remembers_run limits calls).recentFiles]
  exact (nodup_eraseDups _).sublist (List.take_sublist _ _)

theorem length_recentFiles_run_le :
    ((withLimits limits).run calls).recentFiles.length ≤
      ((withLimits limits).run calls).limits.recentFiles := by
  rw [limits_run, (remembers_run limits calls).recentFiles]
  exact List.length_take_le _ _

end Reached

/-- The file that a touch of a new file throws out: the last one, if the list is full. -/
def evicted? (memory : Memory) : Option String :=
  if memory.recentFiles.length < memory.limits.recentFiles then none
  else memory.recentFiles.getLast?

section Touch

variable {memory : Memory} {path other : String}

theorem mem_of_evicted? (thrown : memory.evicted? = some other) : other ∈ memory.recentFiles := by
  unfold evicted? at thrown
  split at thrown
  · cases thrown
  · exact List.mem_of_getLast? thrown

theorem recentFiles_touch (memory : Memory) (path : String) :
    (memory.touch path).recentFiles =
      (path :: memory.recentFiles.erase path).take memory.limits.recentFiles := rfl

/-- A file that is recent already moves to the front. -/
theorem mem_recentFiles_touch_of_mem (distinct : memory.recentFiles.Nodup)
    (bounded : memory.recentFiles.length ≤ memory.limits.recentFiles)
    (recent : path ∈ memory.recentFiles) :
    other ∈ (memory.touch path).recentFiles ↔ other ∈ memory.recentFiles := by
  -- The path has been taken out of the list before, so that nothing is cut off.
  have kept : (path :: memory.recentFiles.erase path).take memory.limits.recentFiles =
      path :: memory.recentFiles.erase path := by
    refine List.take_of_length_le ?_
    have counted := List.length_erase_of_mem recent
    have some := List.length_pos_of_mem recent
    rw [List.length_cons]
    omega
  rw [recentFiles_touch, kept, List.mem_cons, distinct.mem_erase_iff]
  by_cases same : other = path
  · simp [same, recent]
  · simp [same]

/-- The recent files that a new one leaves are those that it does not throw out. -/
theorem mem_dropLast_iff (distinct : memory.recentFiles.Nodup)
    (full : memory.recentFiles.length = memory.limits.recentFiles) :
    other ∈ memory.recentFiles.dropLast ↔
      other ∈ memory.recentFiles ∧ memory.evicted? ≠ some other := by
  unfold evicted?
  rw [if_neg (Nat.not_lt.mpr full.ge)]
  rcases List.eq_nil_or_concat memory.recentFiles with none | ⟨front, last, split⟩
  · simp [none]
  · rw [List.concat_eq_append] at split
    rw [split] at distinct ⊢
    have once : last ∉ front := fun member =>
      (List.nodup_append.mp distinct).2.2 last member last List.mem_cons_self rfl
    rw [List.dropLast_concat, List.getLast?_concat, List.mem_append, List.mem_singleton]
    constructor
    · intro member
      refine ⟨Or.inl member, fun same => once ?_⟩
      rw [Option.some.injEq] at same
      exact same ▸ member
    · rintro ⟨member | rfl, apart⟩
      · exact member
      · exact absurd rfl apart

/-- A new file takes the place of the last one of a full list. -/
theorem mem_recentFiles_touch_of_not_mem (distinct : memory.recentFiles.Nodup)
    (bounded : memory.recentFiles.length ≤ memory.limits.recentFiles)
    (room : 1 ≤ memory.limits.recentFiles) (new : path ∉ memory.recentFiles) :
    other ∈ (memory.touch path).recentFiles ↔
      other = path ∨ (other ∈ memory.recentFiles ∧ memory.evicted? ≠ some other) := by
  obtain ⟨further, isLimit⟩ := Nat.exists_eq_add_of_le' room
  rw [recentFiles_touch, List.erase_of_not_mem new, isLimit, List.take_succ_cons, List.mem_cons]
  refine or_congr_right ?_
  by_cases full : memory.recentFiles.length = memory.limits.recentFiles
  · rw [← mem_dropLast_iff distinct full, List.dropLast_eq_take, full, isLimit]
    rfl
  · have roomy : memory.recentFiles.length < memory.limits.recentFiles := by omega
    have kept : memory.recentFiles.take further = memory.recentFiles :=
      List.take_of_length_le (by omega)
    rw [kept, evicted?, if_pos roomy]
    simp

end Touch

end CodeBrief.Memory
