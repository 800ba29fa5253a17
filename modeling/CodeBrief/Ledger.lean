/-
**Ledgers.**

A ledger holds entries under distinct names in the order in which the names were first entered.
Entering a name again replaces its value and keeps its place.

* `putEntry`, `entriesOf` — enter a value under a name into some entries, and pairs one after
  another.
* `Ledger.put` — enters a value under a name.
* `Ledger.get?` — the value under a name.
* `names_put_of_mem`, `names_put_of_not_mem` — what `put` does to the names.
-/

namespace CodeBrief

section Entries

variable {κ α : Type} [DecidableEq κ]

/-- The entries of a list under the name `name`, with the value replaced by `value`. -/
def replaceEntry (name : κ) (value : α) (entry : κ × α) : κ × α :=
  if entry.1 = name then (name, value) else entry

/-- Replacing values keeps the names. -/
theorem map_fst_replaceEntry (name : κ) (value : α) (entries : List (κ × α)) :
    (entries.map (replaceEntry name value)).map Prod.fst = entries.map Prod.fst := by
  induction entries with
  | nil => rfl
  | cons entry rest ih =>
    simp only [List.map_cons, ih, replaceEntry]
    split <;> simp_all

/-- Entries with `value` under `name`: in the place of the earlier value if there is one, else at
the end. -/
def putEntry (name : κ) (value : α) (entries : List (κ × α)) : List (κ × α) :=
  if name ∈ entries.map Prod.fst then entries.map (replaceEntry name value)
  else entries ++ [(name, value)]

/-- No name is entered twice. -/
theorem nodup_putEntry {entries : List (κ × α)} (distinct : (entries.map Prod.fst).Nodup) (name : κ)
    (value : α) : ((putEntry name value entries).map Prod.fst).Nodup := by
  unfold putEntry
  split
  · rw [map_fst_replaceEntry]
    exact distinct
  · rename_i absent
    rw [List.map_append, List.nodup_append]
    refine ⟨distinct, by simp, ?_⟩
    rintro other inside last isLast rfl
    rw [List.map_singleton, List.mem_singleton] at isLast
    exact absent (isLast.subst inside)

/-- The entries of some pairs, entered one after another. -/
def entriesOf (pairs : List (κ × α)) : List (κ × α) :=
  pairs.foldl (fun entries pair => putEntry pair.1 pair.2 entries) []

end Entries

/-- Values under distinct names, in the order in which the names were first entered. -/
structure Ledger (α : Type) where
  /-- The entries in order. -/
  entries : List (String × α)
  /-- No name occurs twice. -/
  distinct : (entries.map Prod.fst).Nodup

namespace Ledger

variable {α β : Type}

/-- The ledger without entries. -/
def empty : Ledger α := ⟨[], List.nodup_nil⟩

instance : EmptyCollection (Ledger α) := ⟨empty⟩

instance : Inhabited (Ledger α) := ⟨empty⟩

instance [DecidableEq α] : DecidableEq (Ledger α) := fun left right =>
  if same : left.entries = right.entries then
    isTrue (by cases left; cases right; simp_all)
  else isFalse fun equal => same (by rw [equal])

/-- The names in order. -/
def names (ledger : Ledger α) : List String :=
  ledger.entries.map Prod.fst

/-- The values in order. -/
def values (ledger : Ledger α) : List α :=
  ledger.entries.map Prod.snd

/-- The number of entries. -/
def size (ledger : Ledger α) : Nat :=
  ledger.entries.length

/-- The value under `name`, if it has been entered. -/
def get? (ledger : Ledger α) (name : String) : Option α :=
  ledger.entries.lookup name

/-- Whether `name` has been entered. -/
def has (ledger : Ledger α) (name : String) : Bool :=
  ledger.names.contains name

/-- Enters `value` under `name`: in the place of the earlier value if there is one, else at the
end. -/
def put (ledger : Ledger α) (name : String) (value : α) : Ledger α :=
  ⟨putEntry name value ledger.entries, nodup_putEntry ledger.distinct name value⟩

/-- The ledger of `pairs`, entered one after another. -/
def ofList (pairs : List (String × α)) : Ledger α :=
  pairs.foldl (fun ledger pair => ledger.put pair.1 pair.2) empty

/-- The entries whose name and value satisfy `keep`. -/
def filter (keep : String → α → Bool) (ledger : Ledger α) : Ledger α :=
  ⟨ledger.entries.filter fun entry => keep entry.1 entry.2,
    ledger.distinct.sublist (List.filter_sublist.map _)⟩

/-- The ledger with every value replaced by what `change` makes of it and its name. -/
def mapValues (change : String → α → β) (ledger : Ledger α) : Ledger β :=
  ⟨ledger.entries.map fun entry => (entry.1, change entry.1 entry.2), by
    rw [List.map_map]; exact ledger.distinct⟩

/-- Entering a present name keeps the names. -/
theorem names_put_of_mem {ledger : Ledger α} {name : String} (value : α)
    (present : name ∈ ledger.names) : (ledger.put name value).names = ledger.names := by
  unfold names at present
  simp only [put, putEntry, present, if_true, names]
  exact map_fst_replaceEntry name value ledger.entries

/-- Entering a new name appends it. -/
theorem names_put_of_not_mem {ledger : Ledger α} {name : String} (value : α)
    (absent : name ∉ ledger.names) : (ledger.put name value).names = ledger.names ++ [name] := by
  unfold names at absent
  simp [put, putEntry, absent, names]

end Ledger

end CodeBrief
