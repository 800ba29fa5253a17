/-
**Looking up in ledgers.**

* `get?_eq_some_iff` — what stands under a name is the value of its entry, as no name occurs twice.
* `has_iff`, `isSome_get?_iff` — the names that have been entered.
* `entriesFor` — the entries under some names, each once if the names are distinct.
* `get?_mapValues`, `names_filter` — ledgers with other values, and with fewer entries.
* `get?_put` — entering a value changes what stands under its name, and nothing else.
* `entriesOf_of_nodup`, `entries_ofList` — pairs with distinct names are entered as they stand.
* `mem_of_mem_ofList` — a ledger holds nothing but what has been entered.
* `filter_ofList` — entries that are dropped for their names might as well not have been entered.
* `names_ofList` — names stand where they are entered first.
* `get?_ofList`, `perm_entries_ofList` — of the pairs with a name the last one counts.
* `perm_entries_iff` — ledgers with the same entries in any order hold the same under every name.
-/

import CodeBrief.Ledger
import CodeBrief.Proofs.FirstOccurrences
import Mathlib.Algebra.Order.BigOperators.Group.List
import Mathlib.Algebra.Order.Group.Nat
import Mathlib.Algebra.Ring.Nat
import Mathlib.Data.List.Induction
import Mathlib.Data.List.Nodup
import Mathlib.Data.List.Pairwise
import Mathlib.Data.List.Perm.Subperm

namespace CodeBrief

/-! ### Entries -/

section Entries

variable {κ α : Type} [DecidableEq κ]

/-- Pairs with new names are appended. -/
theorem foldl_putEntry (pairs entries : List (κ × α))
    (distinct : (entries.map Prod.fst ++ pairs.map Prod.fst).Nodup) :
    pairs.foldl (fun entries pair => putEntry pair.1 pair.2 entries) entries = entries ++ pairs := by
  induction pairs generalizing entries with
  | nil => simp
  | cons pair rest ih =>
    obtain ⟨name, value⟩ := pair
    have absent : name ∉ entries.map Prod.fst := by
      intro present
      exact (List.nodup_append.mp distinct).2.2 name present name (by simp) rfl
    rw [List.foldl_cons, putEntry, if_neg absent, ih, List.append_assoc, List.singleton_append]
    rw [List.map_append, List.append_assoc]
    exact distinct

theorem entriesOf_of_nodup {pairs : List (κ × α)} (distinct : (pairs.map Prod.fst).Nodup) :
    entriesOf pairs = pairs :=
  foldl_putEntry pairs [] distinct

end Entries

namespace Ledger

variable {α β : Type}

/-! ### Names and values -/

theorem lookup_eq_some_iff {entries : List (String × α)}
    (distinct : (entries.map Prod.fst).Nodup) {name : String} {value : α} :
    entries.lookup name = some value ↔ (name, value) ∈ entries := by
  induction entries with
  | nil => simp
  | cons entry rest ih =>
    obtain ⟨first, held⟩ := entry
    obtain ⟨fresh, distinctRest⟩ := List.nodup_cons.mp distinct
    rw [List.lookup_cons, List.mem_cons]
    by_cases same : name = first
    · -- A second entry under the first name would repeat it.
      subst same
      have once : (name, value) ∉ rest :=
        fun member => fresh (List.mem_map.mpr ⟨(name, value), member, rfl⟩)
      simp [once, eq_comm]
    · rw [beq_false_of_ne same]
      simp [same, ih distinctRest]

/-- **What stands under a name is the value of its entry.** -/
theorem get?_eq_some_iff {ledger : Ledger α} {name : String} {value : α} :
    ledger.get? name = some value ↔ (name, value) ∈ ledger.entries :=
  lookup_eq_some_iff ledger.distinct

theorem has_iff {ledger : Ledger α} {name : String} :
    ledger.has name = true ↔ name ∈ ledger.names := by
  unfold has
  rw [List.contains_iff_mem]

theorem isSome_get?_iff {ledger : Ledger α} {name : String} :
    (ledger.get? name).isSome = true ↔ name ∈ ledger.names := by
  rw [Option.isSome_iff_exists]
  constructor
  · rintro ⟨value, found⟩
    exact List.mem_map_of_mem (get?_eq_some_iff.mp found)
  · intro member
    obtain ⟨⟨name, value⟩, inside, rfl⟩ := List.mem_map.mp member
    exact ⟨value, get?_eq_some_iff.mpr inside⟩

theorem mem_names_of_get? {ledger : Ledger α} {name : String} {value : α}
    (found : ledger.get? name = some value) : name ∈ ledger.names :=
  isSome_get?_iff.mp (Option.isSome_iff_exists.mpr ⟨value, found⟩)

theorem exists_get?_of_mem {ledger : Ledger α} {name : String} (member : name ∈ ledger.names) :
    ∃ value, ledger.get? name = some value :=
  Option.isSome_iff_exists.mp (isSome_get?_iff.mpr member)

theorem get?_eq_none_iff {ledger : Ledger α} {name : String} :
    ledger.get? name = none ↔ name ∉ ledger.names := by
  rw [← isSome_get?_iff, Option.not_isSome_iff_eq_none]

/-- A ledger is its entries. -/
theorem ext_entries {left right : Ledger α} (same : left.entries = right.entries) :
    left = right := by
  cases left
  cases right
  cases same
  rfl

/-- **Ledgers with the same entries in any order** hold the same under every name. -/
theorem perm_entries_iff {left right : Ledger α} :
    left.entries.Perm right.entries ↔ ∀ name, left.get? name = right.get? name := by
  have pairs : ∀ ledger : Ledger α, ledger.entries.Nodup := fun ledger => ledger.distinct.of_map
  rw [List.perm_ext_iff_of_nodup (pairs left) (pairs right)]
  constructor
  · intro same name
    apply Option.ext
    intro value
    rw [get?_eq_some_iff, get?_eq_some_iff]
    exact same (name, value)
  · rintro same ⟨name, value⟩
    rw [← get?_eq_some_iff, ← get?_eq_some_iff, same]

/-! ### The entries under some names -/

/-- The entries under some names, in their order. -/
def entriesFor (ledger : Ledger α) (names : List String) : List (String × α) :=
  names.filterMap fun name => (ledger.get? name).map fun value => (name, value)

theorem names_entriesFor (ledger : Ledger α) (names : List String) :
    (ledger.entriesFor names).map Prod.fst =
      names.filter fun name => (ledger.get? name).isSome := by
  unfold entriesFor
  induction names with
  | nil => rfl
  | cons name rest ih => cases known : ledger.get? name <;> simp [known, ih]

theorem get?_of_mem_entriesFor {ledger : Ledger α} {names : List String} {entry : String × α}
    (member : entry ∈ ledger.entriesFor names) : ledger.get? entry.1 = some entry.2 := by
  obtain ⟨name, -, isFound⟩ := List.mem_filterMap.mp member
  obtain ⟨value, known, rfl⟩ := Option.map_eq_some_iff.mp isFound
  exact known

/-- **Distinct names have distinct entries.** -/
theorem entriesFor_subperm (ledger : Ledger α) {names : List String} (distinct : names.Nodup) :
    (ledger.entriesFor names).Subperm ledger.entries := by
  have once : ((ledger.entriesFor names).map Prod.fst).Nodup := by
    rw [names_entriesFor]
    exact distinct.filter _
  exact List.subperm_of_subset once.of_map fun entry member =>
    get?_eq_some_iff.mp (get?_of_mem_entriesFor member)

/-- What is charged for names is charged for their entries. -/
theorem sum_get?_eq (ledger : Ledger α) (cost : α → Nat) (names : List String) :
    (names.map fun name => ((ledger.get? name).map cost).getD 0).sum =
      ((ledger.entriesFor names).map fun entry => cost entry.2).sum := by
  unfold entriesFor
  induction names with
  | nil => rfl
  | cons name rest ih =>
    rw [List.map_cons, List.sum_cons, ih, List.filterMap_cons]
    cases ledger.get? name with
    | none => exact Nat.zero_add _
    | some value => rfl

/-! ### Other values, and fewer entries -/

@[simp] theorem names_mapValues (change : String → α → β) (ledger : Ledger α) :
    (ledger.mapValues change).names = ledger.names := by
  unfold names mapValues
  rw [List.map_map]
  rfl

/-- Values that are told by the names. -/
theorem mapValues_congr {ledger : Ledger α} {change change' : String → β}
    (same : ∀ name ∈ ledger.names, change name = change' name) :
    (ledger.mapValues fun name _ => change name) = ledger.mapValues fun name _ => change' name := by
  apply ext_entries
  refine List.map_congr_left fun entry member => ?_
  exact congrArg (Prod.mk entry.1) (same entry.1 (List.mem_map_of_mem member))

theorem get?_mapValues (change : String → α → β) (ledger : Ledger α) (name : String) :
    (ledger.mapValues change).get? name = (ledger.get? name).map (change name) := by
  apply Option.ext
  intro value
  rw [get?_eq_some_iff, Option.map_eq_some_iff]
  unfold mapValues
  rw [List.mem_map]
  constructor
  · rintro ⟨⟨other, held⟩, inside, same⟩
    cases same
    exact ⟨held, get?_eq_some_iff.mpr inside, rfl⟩
  · rintro ⟨held, found, rfl⟩
    exact ⟨(name, held), get?_eq_some_iff.mp found, rfl⟩

/-- Entries that are kept for their names. -/
theorem names_filter (keep : String → Bool) (ledger : Ledger α) :
    (ledger.filter fun name _ => keep name).names = ledger.names.filter keep := by
  unfold names filter
  rw [List.filter_map]
  rfl

theorem get?_filter_eq_some {keep : String → α → Bool} {ledger : Ledger α} {name : String}
    {value : α} : (ledger.filter keep).get? name = some value ↔
      ledger.get? name = some value ∧ keep name value = true := by
  rw [get?_eq_some_iff, get?_eq_some_iff]
  unfold filter
  rw [List.mem_filter]

theorem filter_congr {ledger : Ledger α} {keep keep' : String → α → Bool}
    (same : ∀ name value, ledger.get? name = some value → keep name value = keep' name value) :
    ledger.filter keep = ledger.filter keep' := by
  apply ext_entries
  exact List.filter_congr fun entry member => same _ _ (get?_eq_some_iff.mpr member)

theorem filter_comm (ledger : Ledger α) (keep keep' : String → α → Bool) :
    (ledger.filter keep).filter keep' = (ledger.filter keep').filter keep := by
  apply ext_entries
  show (ledger.entries.filter _).filter _ = (ledger.entries.filter _).filter _
  rw [List.filter_filter, List.filter_filter]
  exact List.filter_congr fun entry _ => Bool.and_comm _ _

theorem filter_mapValues (keep : String → Bool) (change : String → α → β) (ledger : Ledger α) :
    (ledger.mapValues change).filter (fun name _ => keep name) =
      (ledger.filter fun name _ => keep name).mapValues change := by
  apply ext_entries
  exact List.filter_map

/-! ### Entering pairs -/

theorem entries_put_of_mem {ledger : Ledger α} {name : String} (value : α)
    (present : name ∈ ledger.names) :
    (ledger.put name value).entries = ledger.entries.map (replaceEntry name value) := by
  unfold names at present
  simp [put, putEntry, present]

theorem entries_put_of_not_mem {ledger : Ledger α} {name : String} (value : α)
    (absent : name ∉ ledger.names) :
    (ledger.put name value).entries = ledger.entries ++ [(name, value)] := by
  unfold names at absent
  simp [put, putEntry, absent]

/-- The entries of a ledger of pairs are those of the pairs. -/
theorem entries_foldl_put (pairs : List (String × α)) (ledger : Ledger α) :
    (pairs.foldl (fun sofar pair => sofar.put pair.1 pair.2) ledger).entries =
      pairs.foldl (fun entries pair => putEntry pair.1 pair.2 entries) ledger.entries := by
  induction pairs generalizing ledger with
  | nil => rfl
  | cons pair rest ih => exact ih (ledger.put pair.1 pair.2)

/-- **Pairs with distinct names are entered as they stand.** -/
theorem entries_ofList {pairs : List (String × α)} (distinct : (pairs.map Prod.fst).Nodup) :
    (ofList pairs).entries = pairs :=
  (entries_foldl_put pairs empty).trans (entriesOf_of_nodup distinct)

/-- Entering a value where all values are told by the names. -/
theorem put_mapValues {ledger : Ledger α} {name : String} (present : name ∈ ledger.names)
    (change : String → β) (value : β) :
    (ledger.mapValues fun other _ => change other).put name value =
      ledger.mapValues fun other _ => if other = name then value else change other := by
  apply ext_entries
  have inside : name ∈ (ledger.mapValues fun other _ => change other).names := by
    rw [names_mapValues]
    exact present
  rw [entries_put_of_mem value inside]
  unfold mapValues
  rw [List.map_map]
  refine List.map_congr_left fun entry _ => ?_
  simp only [Function.comp_apply, replaceEntry]
  split
  · rename_i same
    rw [same]
  · rfl

/-- Entering a value changes what stands under its name, and nothing else. -/
theorem get?_put (ledger : Ledger α) (name : String) (value : α) (other : String) :
    (ledger.put name value).get? other = if other = name then some value else ledger.get? other := by
  have entered : ∀ held, (other, held) ∈ (ledger.put name value).entries ↔
      (other = name ∧ held = value) ∨ (other ≠ name ∧ (other, held) ∈ ledger.entries) := by
    intro held
    by_cases present : name ∈ ledger.names
    · obtain ⟨⟨name, earlier⟩, inside, rfl⟩ := List.mem_map.mp present
      rw [entries_put_of_mem value present, List.mem_map]
      constructor
      · rintro ⟨⟨first, second⟩, member, same⟩
        unfold replaceEntry at same
        split at same
        · cases same
          exact Or.inl ⟨rfl, rfl⟩
        · rename_i different
          cases same
          exact Or.inr ⟨different, member⟩
      · rintro (⟨rfl, rfl⟩ | ⟨different, member⟩)
        · exact ⟨_, inside, if_pos rfl⟩
        · exact ⟨_, member, if_neg different⟩
    · rw [entries_put_of_not_mem value present, List.mem_append, List.mem_singleton, Prod.mk.injEq]
      have known : (other, held) ∈ ledger.entries → other ≠ name := by
        rintro member rfl
        exact present (List.mem_map_of_mem member)
      tauto
  apply Option.ext
  intro held
  rw [get?_eq_some_iff, entered]
  split
  · rename_i same
    simp [same, eq_comm]
  · rename_i different
    simp [different, get?_eq_some_iff]

/-- Pairs under other names change nothing of what stands under a name. -/
theorem get?_foldl_put (pairs : List (String × α)) (ledger : Ledger α) {name : String}
    (absent : name ∉ pairs.map Prod.fst) :
    (pairs.foldl (fun sofar pair => sofar.put pair.1 pair.2) ledger).get? name =
      ledger.get? name := by
  induction pairs generalizing ledger with
  | nil => rfl
  | cons pair rest ih =>
    rw [List.map_cons, List.mem_cons, not_or] at absent
    rw [List.foldl_cons, ih _ absent.2, get?_put, if_neg absent.1]

/-- Names keep their places. -/
theorem names_prefix_put (ledger : Ledger α) (name : String) (value : α) :
    ledger.names <+: (ledger.put name value).names := by
  by_cases present : name ∈ ledger.names
  · exact (names_put_of_mem value present).symm ▸ List.prefix_rfl
  · rw [names_put_of_not_mem value present]
    exact List.prefix_append _ _

theorem fst_replaceEntry (name : String) (value : α) (entry : String × α) :
    (replaceEntry name value entry).1 = entry.1 := by
  unfold replaceEntry
  split
  · rename_i same
    exact same.symm
  · rfl

theorem filter_put (keep : String → Bool) (ledger : Ledger α) (name : String) (value : α) :
    (ledger.put name value).filter (fun other _ => keep other) =
      if keep name then (ledger.filter fun other _ => keep other).put name value
      else ledger.filter fun other _ => keep other := by
  have known : name ∈ (ledger.filter fun other _ => keep other).names ↔
      name ∈ ledger.names ∧ keep name = true := by
    rw [names_filter, List.mem_filter]
  apply ext_entries
  by_cases present : name ∈ ledger.names
  · have entries : ((ledger.put name value).filter fun other _ => keep other).entries =
        (ledger.filter fun other _ => keep other).entries.map (replaceEntry name value) := by
      show (ledger.put name value).entries.filter _ = (ledger.entries.filter _).map _
      rw [entries_put_of_mem value present, List.filter_map]
      congr 1
      refine List.filter_congr fun entry _ => ?_
      rw [Function.comp_apply, fst_replaceEntry]
    split
    · rename_i kept
      rw [entries, entries_put_of_mem value (known.mpr ⟨present, kept⟩)]
    · -- No entry is left that could be replaced.
      rename_i dropped
      have untouched : ∀ entry ∈ (ledger.filter fun other _ => keep other).entries,
          replaceEntry name value entry = id entry := by
        intro entry member
        have kept : keep entry.1 = true := (List.mem_filter.mp member).2
        refine if_neg fun same => dropped ?_
        rw [← same]
        exact kept
      rw [entries, List.map_congr_left untouched, List.map_id]
  · have entries : ((ledger.put name value).filter fun other _ => keep other).entries =
        (ledger.filter fun other _ => keep other).entries ++
          [(name, value)].filter fun entry => keep entry.1 := by
      show (ledger.put name value).entries.filter _ = _
      rw [entries_put_of_not_mem value present, List.filter_append]
      rfl
    split
    · rename_i kept
      have absent : name ∉ (ledger.filter fun other _ => keep other).names :=
        fun inside => present (known.mp inside).1
      rw [entries, entries_put_of_not_mem value absent]
      simp [kept]
    · rename_i dropped
      rw [entries]
      simp [dropped]

theorem ofList_concat (pairs : List (String × α)) (name : String) (value : α) :
    ofList (pairs ++ [(name, value)]) = (ofList pairs).put name value := by
  unfold ofList
  rw [List.foldl_append]
  rfl

/-- **Names stand where they are entered first.** -/
theorem names_ofList (pairs : List (String × α)) :
    (ofList pairs).names = (pairs.map Prod.fst).eraseDups := by
  induction pairs using List.reverseRecOn with
  | nil => rfl
  | append_singleton pairs pair ih =>
    obtain ⟨name, value⟩ := pair
    have known : name ∈ (ofList pairs).names ↔ name ∈ pairs.map Prod.fst := by
      rw [ih, List.mem_eraseDups]
    rw [ofList_concat, List.map_append, List.map_singleton, eraseDups_concat]
    split
    · rename_i present
      rw [names_put_of_mem value (known.mpr present), ih]
    · rename_i absent
      rw [names_put_of_not_mem value (mt known.mp absent), ih]

/-- **Of the pairs with a name the last one counts.** -/
theorem get?_ofList (pairs : List (String × α)) (name : String) :
    (ofList pairs).get? name =
      ((pairs.filter fun pair => pair.1 == name).getLast?).map Prod.snd := by
  induction pairs using List.reverseRecOn with
  | nil => rfl
  | append_singleton pairs pair ih =>
    rw [ofList_concat, get?_put, List.filter_append]
    by_cases same : name = pair.1
    · simp [same]
    · have other : ¬ pair.1 = name := fun equal => same equal.symm
      simp [same, other, ih]

theorem mem_lastEntered_iff {pairs : List (String × α)} {name : String} {value : α} :
    (name, value) ∈ pairs.pwFilter (fun pair later => pair.1 ≠ later.1) ↔
      ((pairs.filter fun pair => pair.1 == name).getLast?).map Prod.snd = some value := by
  induction pairs with
  | nil => simp
  | cons pair rest ih =>
    obtain ⟨first, held⟩ := pair
    have anew : (∀ later ∈ rest.pwFilter (fun pair later => pair.1 ≠ later.1), first ≠ later.1) ↔
        ∀ later ∈ rest, first ≠ later.1 := by
      refine List.forall_mem_pwFilter (R := fun pair later : String × α => pair.1 ≠ later.1)
        (fun {one other third} differ => ?_) (first, held) rest
      by_cases same : one.1 = other.1
      · exact Or.inr (same ▸ differ)
      · exact Or.inl same
    by_cases last : ∀ later ∈ rest, first ≠ later.1
    · rw [List.pwFilter_cons_of_pos (anew.mpr last), List.mem_cons, ih]
      by_cases own : first = name
      · -- No later pair has the name.
        subst own
        have none : rest.filter (fun pair => pair.1 == first) = [] := by
          refine List.filter_eq_nil_iff.mpr fun later member same => ?_
          exact last later member (beq_iff_eq.mp same).symm
        simp [none, eq_comm]
      · have other : name ≠ first := fun equal => own equal.symm
        simp [own, other]
    · rw [List.pwFilter_cons_of_neg (mt anew.mp last), ih]
      by_cases own : first = name
      · obtain ⟨later, member, same⟩ : ∃ later ∈ rest, first = later.1 := by
          by_contra! differ
          exact last differ
        have some : later ∈ rest.filter fun pair => pair.1 == name := by
          simp [member, ← same, own]
        rw [List.filter_cons_of_pos (by simp [own]),
          List.getLast?_cons_of_ne_nil (List.ne_nil_of_mem some)]
      · simp [own]

/-- **The entries are the pairs that are entered last under their names**, in some order. -/
theorem perm_entries_ofList (pairs : List (String × α)) :
    (ofList pairs).entries.Perm (pairs.pwFilter fun pair later => pair.1 ≠ later.1) := by
  have distinct : (pairs.pwFilter fun pair later => pair.1 ≠ later.1).Nodup :=
    (List.pairwise_pwFilter pairs).imp fun differ equal => differ (congrArg Prod.fst equal)
  refine (List.perm_ext_iff_of_nodup (ofList pairs).distinct.of_map distinct).mpr ?_
  intro (name, value)
  rw [mem_lastEntered_iff, ← get?_ofList, get?_eq_some_iff]

/-- **Entries that are dropped for their names** might as well not have been entered. -/
theorem filter_ofList (keep : String → Bool) (pairs : List (String × α)) :
    (ofList pairs).filter (fun name _ => keep name) =
      ofList (pairs.filter fun pair => keep pair.1) := by
  induction pairs using List.reverseRecOn with
  | nil => rfl
  | append_singleton pairs pair ih =>
    obtain ⟨name, value⟩ := pair
    rw [ofList_concat, filter_put, ih, List.filter_append]
    by_cases kept : keep name = true
    · have last : [(name, value)].filter (fun pair => keep pair.1) = [(name, value)] := by
        simp [kept]
      rw [if_pos kept, last, ofList_concat]
    · have last : [(name, value)].filter (fun pair => keep pair.1) = [] := by simp [kept]
      rw [if_neg kept, last, List.append_nil]

theorem filter_beq_name {ledger : Ledger α} {name : String} {value : α}
    (held : ledger.get? name = some value) :
    ledger.filter (fun other _ => other == name) = ofList [(name, value)] := by
  have member := get?_eq_some_iff.mp held
  have once : ledger.names.count name = 1 :=
    List.count_eq_one_of_mem ledger.distinct (List.mem_map_of_mem member)
  have names : (ledger.filter fun other _ => other == name).names = [name] := by
    rw [names_filter, List.filter_beq, once]
    rfl
  have inside : (name, value) ∈ (ledger.filter fun other _ => other == name).entries :=
    List.mem_filter.mpr ⟨member, beq_self_eq_true name⟩
  obtain ⟨entry, only⟩ : ∃ entry, (ledger.filter fun other _ => other == name).entries = [entry] := by
    rw [← List.length_eq_one_iff, ← List.length_map (f := Prod.fst)]
    exact congrArg List.length names
  apply ext_entries
  rw [only] at inside ⊢
  rw [← List.mem_singleton.mp inside]
  rfl

theorem mem_entries_put {ledger : Ledger α} {name : String} {value : α} {entry : String × α}
    (member : entry ∈ (ledger.put name value).entries) :
    entry = (name, value) ∨ entry ∈ ledger.entries := by
  unfold put putEntry at member
  dsimp only at member
  split at member
  · obtain ⟨earlier, inside, rfl⟩ := List.mem_map.mp member
    unfold replaceEntry
    split
    · exact Or.inl rfl
    · exact Or.inr inside
  · rcases List.mem_append.mp member with old | new
    · exact Or.inr old
    · exact Or.inl (List.mem_singleton.mp new)

/-- **A ledger holds nothing but what has been entered.** -/
theorem mem_of_mem_ofList {pairs : List (String × α)} {entry : String × α}
    (member : entry ∈ (ofList pairs).entries) : entry ∈ pairs := by
  suffices entered : ∀ (rest : List (String × α)) (ledger : Ledger α),
      entry ∈ (rest.foldl (fun sofar pair => sofar.put pair.1 pair.2) ledger).entries →
        entry ∈ rest ∨ entry ∈ ledger.entries by
    rcases entered pairs empty member with new | old
    · exact new
    · exact absurd old List.not_mem_nil
  intro rest
  induction rest with
  | nil => exact fun ledger inside => Or.inr inside
  | cons pair rest ih =>
    intro ledger inside
    rcases ih (ledger.put pair.1 pair.2) inside with later | earlier
    · exact Or.inl (List.mem_cons_of_mem _ later)
    · rcases mem_entries_put earlier with rfl | old
      · exact Or.inl List.mem_cons_self
      · exact Or.inr old

end Ledger

end CodeBrief
