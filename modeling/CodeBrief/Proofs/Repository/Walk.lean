/-
**A walk comes to what lies below no excluded directory.**

A walk passes over what is excluded and does not enter excluded directories. In a tree, where a
directory lies at each proper initial segment of the names that lead to a place, it comes to a place
just if neither the place nor a directory above it is excluded.

* `isReached_of_mem_walk`, `mem_walk_of_isReached` — one direction for each walk, by induction on
  the number of directories it may go through.
* `walk_perm` — a walk through a whole tree comes to each such place once.
-/

import CodeBrief.Proofs.Repository.Paths
import CodeBrief.Repository.Listing
import Mathlib.Data.List.Nodup

namespace CodeBrief.FileTree

/-! ### What is left out -/

/-- The paths at and above a path. -/
def pathsUpTo (path : String) : List String :=
  Path.parents path ++ [path]

/-- Whether a path or one above it matches one of some patterns. -/
def isLeftOut (patterns : List String) (path : String) : Bool :=
  (pathsUpTo path).any (isExcluded patterns)

/-- Whether nothing on the way from the directory `here` to a place matches one of some patterns. -/
def IsReached (patterns here names : List String) : Prop :=
  ∀ above, above <+: names → here.length < above.length → isExcluded patterns (pathOf above) = false

/-- Nothing is left out that is reached from the directory at which paths begin. -/
theorem isLeftOut_eq_false {patterns names : List String} (nonempty : names ≠ [])
    (are : ∀ name ∈ names, IsName name) :
    isLeftOut patterns (pathOf names) = false ↔ IsReached patterns [] names := by
  have normal := Path.isNormal_pathOf nonempty are
  simp only [isLeftOut, pathsUpTo, List.any_eq_false, List.mem_append, List.mem_singleton,
    Path.mem_parents normal, Path.names_pathOf are, Bool.not_eq_true, IsReached, List.length_nil,
    List.length_pos_iff]
  constructor
  · intro out above before some
    by_cases whole : above = names
    · exact out _ (.inr (by rw [whole]))
    · exact out _ (.inl ⟨above, before, whole, some, rfl⟩)
  · rintro reached _ (⟨above, before, -, some, rfl⟩ | rfl)
    · exact reached above before some
    · exact reached names List.prefix_rfl nonempty

/-! ### Walks -/

theorem mem_placesIn {places : List Place} {here : List String} {place : Place} :
    place ∈ placesIn places here ↔ place ∈ places ∧ ∃ name, place.1 = here ++ [name] := by
  simp only [placesIn, List.mem_filter, Bool.and_eq_true, Bool.not_eq_eq_eq_not, Bool.not_true,
    List.isEmpty_eq_false_iff, beq_iff_eq]
  refine and_congr_right fun _ => ⟨?_, ?_⟩
  · rintro ⟨nonempty, rfl⟩
    exact ⟨place.1.getLast nonempty, (List.dropLast_append_getLast nonempty).symm⟩
  · rintro ⟨name, same⟩
    rw [same]
    simp

/-- One step of a walk comes to what lies in the directory itself, and on to what it comes to from a
directory there, unless it is excluded. -/
theorem mem_walk_succ {patterns : List String} {places : List Place} {depth : Nat}
    {here : List String} {place : Place} :
    place ∈ walk patterns places (depth + 1) here ↔
      (place ∈ placesIn places here ∧ isExcluded patterns (pathOf place.1) = false) ∨
        ∃ names, (names, .directory) ∈ placesIn places here ∧
          isExcluded patterns (pathOf names) = false ∧ place ∈ walk patterns places depth names := by
  simp only [walk, List.mem_append, List.mem_filter, List.mem_flatMap, Bool.not_eq_eq_eq_not,
    Bool.not_true, beq_iff_eq]
  refine or_congr_right ⟨?_, ?_⟩
  · rintro ⟨⟨names, node⟩, ⟨⟨within, kept⟩, rfl⟩, member⟩
    exact ⟨names, within, kept, member⟩
  · rintro ⟨names, within, kept, member⟩
    exact ⟨(names, .directory), ⟨⟨within, kept⟩, rfl⟩, member⟩

/-- An initial segment that is longer than all but the last name is all of the names. -/
theorem eq_of_prefix_concat {here above : List String} {name : String}
    (before : above <+: here ++ [name]) (longer : here.length < above.length) :
    above = here ++ [name] := by
  refine before.eq_of_length_le ?_
  rw [List.length_append, List.length_singleton]
  omega

/-- **What a walk comes to is reached.** -/
theorem isReached_of_mem_walk {patterns : List String} {places : List Place} {depth : Nat}
    {here : List String} {place : Place} (member : place ∈ walk patterns places depth here) :
    place ∈ places ∧ here <+: place.1 ∧ here.length < place.1.length ∧
      IsReached patterns here place.1 := by
  induction depth generalizing here with
  | zero => simp [walk] at member
  | succ depth ih =>
    rcases mem_walk_succ.mp member with ⟨within, kept⟩ | ⟨names, within, kept, further⟩
    · obtain ⟨there, name, same⟩ := mem_placesIn.mp within
      refine ⟨there, ?_, ?_, fun above before longer => ?_⟩
      · rw [same]
        exact List.prefix_append here [name]
      · rw [same, List.length_append, List.length_singleton]
        omega
      · rw [same] at before
        rw [eq_of_prefix_concat before longer, ← same]
        exact kept
    · obtain ⟨-, name, same⟩ := mem_placesIn.mp within
      dsimp only at same
      obtain ⟨there, onward, longer, reached⟩ := ih further
      have length : names.length = here.length + 1 := by rw [same, List.length_append]; rfl
      refine ⟨there, ?_, by omega, fun above before beyond => ?_⟩
      · exact (same ▸ List.prefix_append here [name]).trans onward
      · by_cases further : names.length < above.length
        · exact reached above before further
        · -- Here the segment ends at the directory that has been entered.
          have short : above <+: names :=
            List.prefix_of_prefix_length_le before onward (Nat.not_lt.mp further)
          rw [short.eq_of_length_le (by omega)]
          exact kept

/-- A tree: places that lie in directories, each once. -/
structure IsRooted (places : List Place) : Prop where
  /-- No place occurs twice. -/
  distinct : places.Nodup
  /-- Names lead to each place. -/
  named : ∀ place ∈ places, place.1 ≠ [] ∧ ∀ name ∈ place.1, IsName name
  /-- A directory lies at each proper initial segment of these names. -/
  inside : ∀ place ∈ places, ∀ above, above <+: place.1 → above ≠ place.1 → above ≠ [] →
    (above, .directory) ∈ places

/-- **A walk through a tree comes to what is reached.** -/
theorem mem_walk_of_isReached {patterns : List String} {places : List Place}
    (rooted : IsRooted places) {depth : Nat} {here : List String} {place : Place}
    (member : place ∈ places) (before : here <+: place.1) (longer : here.length < place.1.length)
    (near : place.1.length ≤ here.length + depth) (reached : IsReached patterns here place.1) :
    place ∈ walk patterns places depth here := by
  induction depth generalizing here with
  | zero => omega
  | succ depth ih =>
    obtain ⟨rest, same⟩ := before
    have further : 0 < rest.length := by
      rw [← same, List.length_append] at longer
      omega
    obtain ⟨name, rest, rfl⟩ := List.exists_cons_of_length_pos further
    have next : here ++ [name] <+: place.1 := ⟨rest, by rw [← same]; simp⟩
    have kept : isExcluded patterns (pathOf (here ++ [name])) = false :=
      reached _ next (by simp)
    refine mem_walk_succ.mpr ?_
    by_cases last : rest = []
    · subst last
      exact .inl ⟨mem_placesIn.mpr ⟨member, name, same.symm⟩, same ▸ kept⟩
    · have proper : here ++ [name] ≠ place.1 := by
        rw [← same]
        simpa using fun empty : [] = rest => last empty.symm
      have directory : (here ++ [name], Node.directory) ∈ places :=
        rooted.inside place member _ next proper (by simp)
      have beyond : (here ++ [name]).length < place.1.length :=
        Nat.lt_of_le_of_ne next.length_le fun equal => proper (next.eq_of_length equal)
      refine .inr ⟨_, mem_placesIn.mpr ⟨directory, name, rfl⟩, kept, ih next beyond ?_ ?_⟩
      · rw [List.length_append, List.length_singleton]
        omega
      · intro above before longer
        refine reached above before (Nat.lt_trans ?_ longer)
        simp

/-! ### Each place once -/

/-- What lies below a directory is told by more names, the directory's in front. -/
theorem names_of_entered {patterns : List String} {places : List Place} {depth : Nat}
    {here : List String} {directory place : Place} (within : directory ∈ placesIn places here)
    (member : place ∈ walk patterns places depth directory.1) :
    directory.1.length = here.length + 1 ∧ directory.1 <+: place.1 ∧
      directory.1.length < place.1.length := by
  obtain ⟨-, name, same⟩ := mem_placesIn.mp within
  obtain ⟨-, before, longer, -⟩ := isReached_of_mem_walk member
  exact ⟨by rw [same, List.length_append, List.length_singleton], before, longer⟩

/-- **A walk comes to each place once.** -/
theorem nodup_walk (patterns : List String) {places : List Place} (distinct : places.Nodup)
    (depth : Nat) (here : List String) : (walk patterns places depth here).Nodup := by
  induction depth generalizing here with
  | zero => exact List.nodup_nil
  | succ depth ih =>
    have own : (placesIn places here).Nodup := distinct.filter _
    unfold walk
    refine List.nodup_append.mpr ⟨own.filter _, List.nodup_flatMap.mpr ⟨?_, ?_⟩, ?_⟩
    · exact fun directory _ => ih directory.1
    · -- Two directories at one place would be the same.
      refine ((own.filter _).filter _).imp_of_mem fun {first second} one other apart => ?_
      simp only [List.mem_filter, beq_iff_eq] at one other
      intro place inFirst inSecond
      obtain ⟨length, before, -⟩ := names_of_entered one.1.1 inFirst
      obtain ⟨length', before', -⟩ := names_of_entered other.1.1 inSecond
      have short : first.1 <+: second.1 :=
        List.prefix_of_prefix_length_le before before' (by omega)
      exact apart (Prod.ext (short.eq_of_length (by omega)) (one.2.trans other.2.symm))
    · intro place direct entered further same
      obtain ⟨directory, kept, member⟩ := List.mem_flatMap.mp further
      have within := (List.mem_filter.mp (List.mem_filter.mp kept).1).1
      obtain ⟨length, -, longer⟩ := names_of_entered within member
      obtain ⟨-, name, names⟩ := mem_placesIn.mp (List.mem_filter.mp direct).1
      rw [← same, names, List.length_append, List.length_singleton] at longer
      omega

theorem length_le_depthOf {places : List Place} {place : Place} (member : place ∈ places) :
    place.1.length ≤ depthOf places := by
  induction places with
  | nil => simp at member
  | cons first rest ih =>
    rw [depthOf, List.foldr_cons]
    rcases List.mem_cons.mp member with rfl | member
    · exact Nat.le_max_left _ _
    · exact Nat.le_trans (ih member) (Nat.le_max_right _ _)

/-- **A walk through a whole tree comes to what is not left out.** -/
theorem walk_perm (patterns : List String) {places : List Place} (rooted : IsRooted places) :
    (walk patterns places (depthOf places) []).Perm
      (places.filter fun place => !isLeftOut patterns (pathOf place.1)) := by
  refine (List.perm_ext_iff_of_nodup (nodup_walk patterns rooted.distinct _ _)
    (rooted.distinct.filter _)).mpr fun place => ?_
  rw [List.mem_filter, Bool.not_eq_eq_eq_not, Bool.not_true]
  constructor
  · intro member
    obtain ⟨there, -, -, reached⟩ := isReached_of_mem_walk member
    obtain ⟨nonempty, are⟩ := rooted.named place there
    exact ⟨there, (isLeftOut_eq_false nonempty are).mpr reached⟩
  · rintro ⟨there, kept⟩
    obtain ⟨nonempty, are⟩ := rooted.named place there
    refine mem_walk_of_isReached rooted there (List.nil_prefix) ?_ ?_
      ((isLeftOut_eq_false nonempty are).mp kept)
    · exact List.length_pos_iff.mpr nonempty
    · rw [List.length_nil, Nat.zero_add]
      exact length_le_depthOf there

end CodeBrief.FileTree
