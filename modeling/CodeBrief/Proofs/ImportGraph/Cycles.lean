/-
**Import cycles.**

Two scripts belong to one group if each can be reached from the other along imports; a group counts
if it has at least two members. So a script is in a group just if it lies on a circle of at least
two scripts, each of which imports the next one.

* `ImportsAmong` — who imports whom among some files, read off their texts.
* `OnCircle`, `onCircle_iff` — circles, and what they have to do with being reached in both
  directions.
* `mem_groupOf_iff`, `groupOf_eq` — the members of a group, and that each has the same group.
* `cycles_groupsCircles` — the groups are the circles, in order.
-/

import CodeBrief.Proofs.ImportGraph.Reachability
import CodeBrief.Proofs.Ranking
import Mathlib.Data.List.Chain
import Mathlib.Data.String.Basic

namespace CodeBrief

open Relation (ReflTransGen)

/-! ### Circles -/

section Circles

variable {α : Type} {r : α → α → Prop} {a b : α}

/-- A place lies on a circle of at least two places: it leads to others, one after another, each of
them once, and the last one leads back to it. -/
def OnCircle (r : α → α → Prop) (place : α) : Prop :=
  ∃ others : List α, others ≠ [] ∧ (place :: others).Nodup ∧
    (place :: others ++ [place]).IsChain r

/-- What can be reached can be reached without coming to any place twice. -/
theorem exists_direct_path (path : ReflTransGen r a b) :
    ∃ after, (a :: after).Nodup ∧ (a :: after).IsChain r ∧ (a :: after).getLast? = some b := by
  induction path using ReflTransGen.head_induction_on with
  | refl => exact ⟨[], List.nodup_singleton b, List.isChain_singleton b, rfl⟩
  | @head a c edge _ ih =>
    obtain ⟨after, distinct, chain, last⟩ := ih
    by_cases again : a ∈ c :: after
    · -- The path comes back to where it began: what lies before is left out.
      obtain ⟨before, rest, same⟩ := List.append_of_mem again
      rw [same] at distinct chain last
      refine ⟨rest, (List.nodup_append.mp distinct).2.1, chain.right_of_append, ?_⟩
      rwa [List.getLast?_append_of_ne_nil _ (List.cons_ne_nil a rest)] at last
    · refine ⟨c :: after, List.nodup_cons.mpr ⟨again, distinct⟩, ?_, ?_⟩
      · exact List.isChain_cons_cons.mpr ⟨edge, chain⟩
      · rw [List.getLast?_cons_cons]
        exact last

/-- **A place lies on a circle if and only if it and some other place reach each other.** -/
theorem onCircle_iff :
    OnCircle r a ↔ ∃ b, b ≠ a ∧ ReflTransGen r a b ∧ ReflTransGen r b a := by
  constructor
  · rintro ⟨others, several, distinct, chain⟩
    obtain ⟨b, rest, rfl⟩ := List.exists_cons_of_ne_nil several
    have other : b ≠ a := by
      rintro rfl
      exact (List.nodup_cons.mp distinct).1 List.mem_cons_self
    obtain ⟨edge, back⟩ := List.isChain_cons_cons.mp chain
    refine ⟨b, other, .single edge, ?_⟩
    exact List.relationReflTransGen_of_exists_isChain_cons (rest ++ [a]) back (by simp)
  · rintro ⟨b, other, forth, back⟩
    -- The first step of a direct path to `b` leads to another place, and from there a direct path
    -- leads back.
    obtain ⟨after, distinct, chain, last⟩ := exists_direct_path forth
    cases after with
    | nil => exact absurd (Option.some.inj last).symm other
    | cons c rest =>
      obtain ⟨edge, onward⟩ := List.isChain_cons_cons.mp chain
      have away : c ≠ a := by
        rintro rfl
        exact (List.nodup_cons.mp distinct).1 List.mem_cons_self
      have onwardToB : ReflTransGen r c b := by
        refine List.relationReflTransGen_of_exists_isChain_cons rest onward ?_
        rw [List.getLast?_cons_cons,
          List.getLast?_eq_some_getLast (List.cons_ne_nil c rest)] at last
        exact Option.some.inj last
      obtain ⟨way, distinctWay, chainWay, lastWay⟩ := exists_direct_path (onwardToB.trans back)
      obtain ⟨others, same⟩ := List.getLast?_eq_some_iff.mp lastWay
      refine ⟨others, ?_, ?_, ?_⟩
      · rintro rfl
        exact away (List.cons.inj same).1
      · rw [same] at distinctWay
        exact List.nodup_append_comm.mp distinctWay
      · rw [List.cons_append, ← same]
        exact List.isChain_cons_cons.mpr ⟨edge, chainWay⟩

end Circles

/-! ### Orders -/

theorem lexLe_textLe_iff :
    ∀ {left right : List String}, lexLe textLe left right = true ↔ left ≤ right
  | [], right => by
    rw [← not_lt]
    exact iff_of_true rfl (List.not_lt_nil right)
  | x :: xs, [] => by
    rw [← not_lt]
    exact iff_of_false Bool.false_ne_true (not_not_intro (List.nil_lt_cons x xs))
  | x :: xs, y :: ys => by
    unfold lexLe
    rw [← not_lt, List.cons_lt_cons_iff]
    split
    · rename_i same
      rw [lexLe_textLe_iff, ← not_lt, same]
      simp only [lt_irrefl, false_or, true_and]
    · rename_i other
      rw [textLe_iff, ← not_lt]
      simp only [Ne.symm other, false_and, or_false]

/-- Distinct elements are sorted strictly. -/
theorem sortBy_pairwise_lt {α : Type} [LinearOrder α] {le : α → α → Bool}
    (le_iff : ∀ {x y}, le x y = true ↔ x ≤ y) {xs : List α} (distinct : xs.Nodup) :
    (sortBy le xs).Pairwise (· < ·) := by
  have sorted : (sortBy le xs).Pairwise fun x y => le x y = true := by
    refine sortBy_pairwise (fun x y => ?_) (fun x y z => ?_) xs
    · rw [le_iff, le_iff]
      exact le_total x y
    · rw [le_iff, le_iff, le_iff]
      exact le_trans
  have apart : (sortBy le xs).Nodup := (sortBy_perm le xs).nodup_iff.mpr distinct
  exact (sorted.and apart).imp fun ⟨before, other⟩ => lt_of_le_of_ne (le_iff.mp before) other

namespace ImportGraph

/-! ### Groups -/

section Groups

variable {graph : ImportGraph} {path other : String}

/-- A script can be reached from another one along imports. -/
def Reaches (graph : ImportGraph) : String → String → Prop :=
  ReflTransGen (Leads graph.edges)

theorem mem_paths_of_reaches (script : path ∈ graph.paths) (reaches : graph.Reaches path other) :
    other ∈ graph.paths := by
  induction reaches with
  | refl => exact script
  | tail _ edge _ => exact (graph.mem_paths_of_mem_edges edge).2

/-- What is found from a script is what it reaches. -/
theorem mem_reachable_iff :
    other ∈ (graph.reachable.get? path).getD [] ↔
      path ∈ graph.paths ∧ graph.Reaches path other := by
  have found : graph.reachable.get? path = (graph.scripts.get? path).map fun _ =>
      reachWithin graph.edges graph.scripts.size [path] [path] :=
    Ledger.get?_mapValues _ graph.scripts path
  have size : graph.scripts.size = graph.paths.length := (List.length_map _).symm
  have inside : ∀ source target, Leads graph.edges source target → target ∈ graph.paths :=
    fun source target edge => (graph.mem_paths_of_mem_edges edge).2
  rw [found, size]
  cases known : graph.scripts.get? path with
  | none =>
    have absent : path ∉ graph.paths := Ledger.get?_eq_none_iff.mp known
    simp [absent]
  | some facts =>
    have script : path ∈ graph.paths := Ledger.isSome_get?_iff.mp (by rw [known]; rfl)
    rw [Option.map_some, Option.getD_some, mem_reachWithin_iff inside script]
    exact (and_iff_right script).symm

/-- The group of a script. -/
def groupOf (graph : ImportGraph) (path : String) : List String :=
  group graph.reachable path

/-- **The members of a group** reach each other. -/
theorem mem_groupOf_iff :
    other ∈ graph.groupOf path ↔
      path ∈ graph.paths ∧ graph.Reaches path other ∧ graph.Reaches other path := by
  unfold groupOf group
  rw [(sortBy_perm _ _).mem_iff, List.mem_filter, List.contains_iff_mem, mem_reachable_iff,
    mem_reachable_iff]
  constructor
  · rintro ⟨⟨script, forth⟩, -, back⟩
    exact ⟨script, forth, back⟩
  · rintro ⟨script, forth, back⟩
    exact ⟨⟨script, forth⟩, mem_paths_of_reaches script forth, back⟩

theorem nodup_reachable (path : String) : ((graph.reachable.get? path).getD []).Nodup := by
  have found : graph.reachable.get? path = (graph.scripts.get? path).map fun _ =>
      reachWithin graph.edges graph.scripts.size [path] [path] :=
    Ledger.get?_mapValues _ graph.scripts path
  rw [found]
  cases graph.scripts.get? path with
  | none => exact List.nodup_nil
  | some facts => exact nodup_reachWithin (List.nodup_singleton path)

theorem groupOf_pairwise (path : String) : (graph.groupOf path).Pairwise (· < ·) :=
  sortBy_pairwise_lt textLe_iff ((nodup_reachable path).filter _)

/-- **All members of a group have the same group.** -/
theorem groupOf_eq (member : other ∈ graph.groupOf path) :
    graph.groupOf other = graph.groupOf path := by
  obtain ⟨script, forth, back⟩ := mem_groupOf_iff.mp member
  have script' := mem_paths_of_reaches script forth
  have sorted : (graph.groupOf other).Pairwise (· < ·) := groupOf_pairwise other
  have sorted' : (graph.groupOf path).Pairwise (· < ·) := groupOf_pairwise path
  have same : (graph.groupOf other).Perm (graph.groupOf path) := by
    refine (List.perm_ext_iff_of_nodup (sorted.imp ne_of_lt) (sorted'.imp ne_of_lt)).mpr
      fun place => ?_
    rw [mem_groupOf_iff, mem_groupOf_iff]
    constructor
    · rintro ⟨-, there, here⟩
      exact ⟨script, forth.trans there, here.trans back⟩
    · rintro ⟨-, there, here⟩
      exact ⟨script', back.trans there, here.trans forth⟩
  exact same.eq_of_pairwise (fun _ _ _ _ => le_antisymm) (sorted.imp le_of_lt)
    (sorted'.imp le_of_lt)

theorem mem_cycles_iff {members : List String} :
    members ∈ graph.cycles ↔
      1 < members.length ∧ ∃ path ∈ graph.paths, graph.groupOf path = members := by
  unfold cycles
  rw [(sortBy_perm _ _).mem_iff, List.mem_eraseDups, List.mem_filter, List.mem_map,
    decide_eq_true_eq, and_comm]
  rfl

/-- A group that counts is the group of each of its members. -/
theorem groupOf_of_mem_cycles {members : List String} (group : members ∈ graph.cycles)
    (member : path ∈ members) : graph.groupOf path = members := by
  obtain ⟨-, first, -, rfl⟩ := mem_cycles_iff.mp group
  exact groupOf_eq member

theorem exists_mem_cycles_iff :
    (∃ members ∈ graph.cycles, path ∈ members ∧ other ∈ members) ↔
      1 < (graph.groupOf path).length ∧ other ∈ graph.groupOf path := by
  constructor
  · rintro ⟨members, group, member, member'⟩
    rw [groupOf_of_mem_cycles group member]
    exact ⟨(mem_cycles_iff.mp group).1, member'⟩
  · rintro ⟨several, member⟩
    have script := (mem_groupOf_iff.mp member).1
    exact ⟨graph.groupOf path, mem_cycles_iff.mpr ⟨several, path, script, rfl⟩,
      mem_groupOf_iff.mpr ⟨script, .refl, .refl⟩, member⟩

/-- **A group counts just if its script lies on a circle.** -/
theorem one_lt_length_groupOf_iff :
    1 < (graph.groupOf path).length ↔ OnCircle (Leads graph.edges) path := by
  have distinct : (graph.groupOf path).Nodup := (groupOf_pairwise path).imp ne_of_lt
  rw [onCircle_iff]
  constructor
  · intro several
    have nonempty : graph.groupOf path ≠ [] := List.ne_nil_of_length_pos (by omega)
    have notAlone : graph.groupOf path ≠ [path] := by
      intro alone
      rw [alone] at several
      exact absurd several (Nat.lt_irrefl 1)
    obtain ⟨other, member, apart⟩ :=
      ((distinct.ne_singleton_iff path).mp notAlone).resolve_left nonempty
    obtain ⟨-, forth, back⟩ := mem_groupOf_iff.mp member
    exact ⟨other, apart, forth, back⟩
  · rintro ⟨other, apart, forth, back⟩
    have script : path ∈ graph.paths := by
      rcases forth.cases_head with same | ⟨next, edge, -⟩
      · exact absurd same.symm apart
      · exact (graph.mem_paths_of_mem_edges edge).1
    have both : [path, other] ⊆ graph.groupOf path := by
      intro place member
      rcases List.mem_pair.mp member with rfl | rfl
      · exact mem_groupOf_iff.mpr ⟨script, .refl, .refl⟩
      · exact mem_groupOf_iff.mpr ⟨script, forth, back⟩
    have two : [path, other].Nodup := by simpa using apart.symm
    exact (two.subperm both).length_le

end Groups

end ImportGraph

/-! ### The cycles among some files -/

/-- A script among some files imports another one, or itself: its text names the path of the other
one as a target, letter for letter. -/
structure ImportsAmong (files : Ledger String) (importer target : String) : Prop where
  /-- The target occurs in the text of the importer. -/
  named : ∃ content, files.get? importer = some content ∧
    target ∈ Script.imports content.toList
  /-- The importer is a script. -/
  importing : Path.isScript importer = true
  /-- The target is one of the files. -/
  present : target ∈ files.names
  /-- The target is a script. -/
  script : Path.isScript target = true

open ImportGraph in
theorem leads_build (files : Ledger String) :
    Leads (build files).edges = ImportsAmong files := by
  funext importer target
  rw [eq_iff_iff]
  unfold Leads
  rw [mem_edges, paths_build, List.mem_filter]
  constructor
  · rintro ⟨imported, present, script⟩
    have importing := mem_paths_of_mem_importsOf _ imported
    rw [paths_build, List.mem_filter] at importing
    obtain ⟨content, known⟩ := Option.isSome_iff_exists.mp
      (Ledger.isSome_get?_iff.mpr importing.1)
    rw [importsOf_build known importing.2] at imported
    exact ⟨⟨content, known, imported⟩, importing.2, present, script⟩
  · rintro ⟨⟨content, known, named⟩, importing, present, script⟩
    rw [importsOf_build known importing]
    exact ⟨named, present, script⟩

/-- Some groups are the circles of a relation, in order. -/
structure GroupsCircles (imports : String → String → Prop) (groups : List (List String)) :
    Prop where
  /-- What is in a group is what lies on a circle. -/
  circles : ∀ path, (∃ group ∈ groups, path ∈ group) ↔ OnCircle imports path
  /-- Two places are in one group just if they reach each other. -/
  together : ∀ path other, path ≠ other →
    ((∃ group ∈ groups, path ∈ group ∧ other ∈ group) ↔
      ReflTransGen imports path other ∧ ReflTransGen imports other path)
  /-- No place is in two groups. -/
  disjoint : groups.Pairwise List.Disjoint
  /-- A group has at least two members. -/
  several : ∀ group ∈ groups, 2 ≤ group.length
  /-- The members of a group are sorted. -/
  membersSorted : ∀ group ∈ groups, group.Pairwise (· < ·)
  /-- The groups are sorted. -/
  groupsSorted : groups.Pairwise (· < ·)
  /-- What leads to nothing but itself is in no group. -/
  alone : ∀ path, (∀ target, imports path target → target = path) →
    ∀ group ∈ groups, path ∉ group

open ImportGraph in
/-- **The groups are the import cycles.** Whatever the files, the groups hold just the scripts that
lie on a circle of at least two scripts, two scripts together just if they reach each other along
imports, and groups and members are sorted. -/
theorem cycles_groupsCircles (files : Ledger String) :
    GroupsCircles (ImportsAmong files) (build files).cycles := by
  rw [← leads_build]
  generalize build files = graph
  have circles : ∀ path, (∃ group ∈ graph.cycles, path ∈ group) ↔
      OnCircle (Leads graph.edges) path := by
    intro path
    rw [← one_lt_length_groupOf_iff]
    constructor
    · rintro ⟨group, counts, member⟩
      rw [groupOf_of_mem_cycles counts member]
      exact (mem_cycles_iff.mp counts).1
    · intro several
      obtain ⟨other, member⟩ := List.exists_mem_of_length_pos (Nat.zero_lt_of_lt several)
      obtain ⟨group, counts, member, -⟩ := exists_mem_cycles_iff.mpr ⟨several, member⟩
      exact ⟨group, counts, member⟩
  have sorted : graph.cycles.Pairwise (· < ·) :=
    sortBy_pairwise_lt lexLe_textLe_iff (nodup_eraseDups _)
  constructor
  case circles => exact circles
  case together =>
    intro path other apart
    rw [exists_mem_cycles_iff, one_lt_length_groupOf_iff, mem_groupOf_iff]
    constructor
    · rintro ⟨-, -, forth, back⟩
      exact ⟨forth, back⟩
    · rintro ⟨forth, back⟩
      have circle : OnCircle (Leads graph.edges) path :=
        onCircle_iff.mpr ⟨other, apart.symm, forth, back⟩
      obtain ⟨group, counts, member⟩ := (circles path).mpr circle
      rw [← groupOf_of_mem_cycles counts member] at member
      exact ⟨circle, (mem_groupOf_iff.mp member).1, forth, back⟩
  case disjoint =>
    -- A group is the group of each of its members, so that two with a common one are the same.
    refine sorted.imp_of_mem fun {left right} counts counts' before path member member' => ?_
    have same : left = right :=
      (groupOf_of_mem_cycles counts member).symm.trans (groupOf_of_mem_cycles counts' member')
    exact absurd same before.ne
  case several => exact fun group counts => (mem_cycles_iff.mp counts).1
  case membersSorted =>
    intro group counts
    obtain ⟨-, path, -, rfl⟩ := mem_cycles_iff.mp counts
    exact groupOf_pairwise path
  case groupsSorted => exact sorted
  case alone =>
    intro path alone group counts member
    obtain ⟨others, several, distinct, chain⟩ := (circles path).mp ⟨group, counts, member⟩
    obtain ⟨next, rest, rfl⟩ := List.exists_cons_of_ne_nil several
    have same := alone next (List.isChain_cons_cons.mp chain).1
    exact (List.nodup_cons.mp distinct).1 (same ▸ List.mem_cons_self)

/-- Two circles that touch, a script that imports itself, and one outside. -/
example :
    (ImportGraph.build (.ofList [("d.js", "require('d.js') require('a.js')"),
      ("c.js", "require('b.js')"), ("b.js", "require('c.js') require('a.js')"),
      ("a.js", "require('b.js')")])).cycles = [["a.js", "b.js", "c.js"]] := by
  decide +kernel

end CodeBrief
