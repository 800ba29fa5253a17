/-
**Setting values under keys.**

A dotted key leads through the JSON of settings to a section or to a leaf. To set a value, the JSON
is changed under the key and read anew as a whole. All else in it is read back as it was, so that
only the value under the key is read for the first time (`set_text`).

* `Key` — the sections and leaves; `Key.read` — what a value under a key makes of settings.
* `set_eq_unknownKey_iff` — every other text is refused as an unknown key.
* `value_of_read`, `value_own` — a leaf that is not under the key stays as it was, and what is under
  the key is told by the new value alone. So the order of two leaves does not matter (`change_comm`).
* `set_lawful` — what follows for one value, for a run of values, and for two leaves in either order.
-/

import CodeBrief.Proofs.Settings.Validity
import CodeBrief.Proofs.Text.Pieces

namespace CodeBrief.Settings

open Json (Value ValueOf)

/-! ### Keys -/

/-- The sections and the leaves of settings. -/
inductive Key where
  | name | rootPath
  | brief | maxTokens | metadataReserve | includeAnalysis | includeMemory
  | listing | excludePatterns | maxFileSize | maxConcurrent
  | memory | conversations | recentFiles
  deriving DecidableEq, Repr

namespace Key

/-- The names of the members that lead to a section or leaf. -/
def names : Key → List String
  | name => ["name"]
  | rootPath => ["root_path"]
  | brief => ["context"]
  | maxTokens => ["context", "max_tokens"]
  | metadataReserve => ["context", "metadata_reserve"]
  | includeAnalysis => ["context", "include_analysis"]
  | includeMemory => ["context", "include_memory"]
  | listing => ["indexer"]
  | excludePatterns => ["indexer", "exclude_patterns"]
  | maxFileSize => ["indexer", "max_file_size_kb"]
  | maxConcurrent => ["indexer", "max_concurrent_fetches"]
  | memory => ["memory"]
  | conversations => ["memory", "max_conversations"]
  | recentFiles => ["memory", "max_recent_files"]

/-- A key as it is written: its names with dots between them. -/
def text (key : Key) : String :=
  ".".intercalate key.names

def isLeaf : Key → Bool
  | brief | listing | memory => false
  | _ => true

/-- The value under a key. -/
def value (settings : Settings) : Key → Value
  | name => .string settings.name
  | rootPath => .string settings.rootPath
  | brief => settings.brief.toJson
  | maxTokens => .int settings.brief.maxTokens
  | metadataReserve => .float settings.brief.metadataReserve
  | includeAnalysis => .bool settings.brief.includeAnalysis
  | includeMemory => .bool settings.brief.includeMemory
  | listing => settings.listing.toJson
  | excludePatterns => .ofTexts settings.listing.excludePatterns
  | maxFileSize => .int settings.listing.maxFileSize
  | maxConcurrent => .int settings.listing.maxConcurrent
  | memory => settings.memory.toJson
  | conversations => .int settings.memory.conversations
  | recentFiles => .int settings.memory.recentFiles

/-- What a value under a key makes of settings. -/
def read (new : Value) : Key → Checked (Settings → Settings)
  | name => (textField new).map fun x settings => { settings with name := x }
  | rootPath => (textField new).map fun x settings => { settings with rootPath := x }
  | brief => (readSection "ContextConfig" BriefSettings.ofMembers new).map
      fun x settings => { settings with brief := x }
  | maxTokens => (positiveField new).map
      fun x settings => { settings with brief.maxTokens := x }
  | metadataReserve => (shareField new).map
      fun x settings => { settings with brief.metadataReserve := x }
  | includeAnalysis => (truthField new).map
      fun x settings => { settings with brief.includeAnalysis := x }
  | includeMemory => (truthField new).map
      fun x settings => { settings with brief.includeMemory := x }
  | listing => (readSection "IndexerConfig" ListingSettings.ofMembers new).map
      fun x settings => { settings with listing := x }
  | excludePatterns => (textsField new).map
      fun x settings => { settings with listing.excludePatterns := x }
  | maxFileSize => (wholeField new).map
      fun x settings => { settings with listing.maxFileSize := x }
  | maxConcurrent => (wholeField new).map
      fun x settings => { settings with listing.maxConcurrent := x }
  | memory => (readSection "MemoryConfig" MemoryLimits.ofMembers new).map
      fun x settings => { settings with memory := x }
  | conversations => (limitField 100 new).map
      fun x settings => { settings with memory.conversations := x }
  | recentFiles => (limitField 20 new).map
      fun x settings => { settings with memory.recentFiles := x }

end Key

variable {settings settings' result : Settings} {new : Value}

/-! ### What keys lead to -/

theorem keyNames_text (key : Key) : keyNames key.text = key.names := by
  cases key <;> decide +kernel

theorem keyNames_eq_iff {text : String} {key : Key} :
    keyNames text = key.names ↔ text = key.text := by
  constructor
  · intro same
    have together := Text.intercalate_pieces '.' text.toList
    apply String.toList_inj.mp
    rw [Key.text, ← same, keyNames, String.toList_intercalate, List.map_map]
    simpa [Function.comp_def] using together.symm
  · rintro rfl
    exact keyNames_text key

theorem keyNames_ne_nil (text : String) : keyNames text ≠ [] := by
  unfold keyNames
  rw [Text.pieces_eq_splitOnP]
  exact mt List.map_eq_nil_iff.mp (List.splitOnP_ne_nil _ _)

/-- A section or leaf has its value under its key. -/
theorem get?_text (settings : Settings) (key : Key) :
    settings.get? key.text = some (key.value settings) := by
  unfold get?
  rw [keyNames_text]
  cases key <;>
    simp [Key.names, Key.value, valueAt?, Value.member?, toJson, BriefSettings.toJson,
      ListingSettings.toJson, MemoryLimits.toJson, List.lookup_cons]

/-- A way ends at a value that is no object. -/
theorem eq_nil_of_replaceAt? {value : Value} (notObject : ∀ members, value ≠ .object members)
    {rest : List String} (found : (replaceAt? new rest value).isSome) : rest = [] := by
  cases rest with
  | nil => rfl
  | cons name rest =>
    cases value with
    | object members => exact absurd rfl (notObject members)
    | _ => cases found

/-- A way through an object leads to one of its members. -/
theorem exists_member_of_replaceAt? {members : List (String × Value)}
    (distinct : (members.map Prod.fst).Nodup) {name : String} {rest : List String}
    (found : (replaceAt? new (name :: rest) (.object members)).isSome) :
    ∃ inner, (name, inner) ∈ members ∧ (replaceAt? new rest inner).isSome := by
  unfold replaceAt? at found
  split at found
  · rename_i inner isInner
    exact ⟨inner, (Ledger.lookup_eq_some_iff distinct).mp isInner, by simpa using found⟩
  · cases found

/-- A way into an object without objects in it leads to the object or to a member. -/
theorem eq_nil_or_singleton_of_replaceAt? {members : List (String × Value)}
    (distinct : (members.map Prod.fst).Nodup)
    (flat : ∀ member ∈ members, ∀ inner, member.2 ≠ .object inner) {rest : List String}
    (found : (replaceAt? new rest (.object members)).isSome) :
    rest = [] ∨ ∃ name ∈ members.map Prod.fst, rest = [name] := by
  cases rest with
  | nil => exact Or.inl rfl
  | cons name rest =>
    obtain ⟨inner, member, deeper⟩ := exists_member_of_replaceAt? distinct found
    obtain rfl := eq_nil_of_replaceAt? (flat _ member) deeper
    exact Or.inr ⟨name, List.mem_map_of_mem member, rfl⟩

/-- **Every way through the JSON of settings is that of a key.** -/
theorem exists_key_of_replaceAt? {names : List String} (nonempty : names ≠ [])
    (found : (replaceAt? new names settings.toJson).isSome) : ∃ key : Key, names = key.names := by
  obtain ⟨name, rest, rfl⟩ := List.exists_cons_of_ne_nil nonempty
  obtain ⟨inner, member, deeper⟩ := exists_member_of_replaceAt? (by simp) found
  simp only [List.mem_cons, Prod.mk.injEq, List.not_mem_nil, or_false] at member
  rcases member with ⟨rfl, rfl⟩ | ⟨rfl, rfl⟩ | ⟨rfl, rfl⟩ | ⟨rfl, rfl⟩ | ⟨rfl, rfl⟩
  · obtain rfl := eq_nil_of_replaceAt? (by simp) deeper
    exact ⟨.name, rfl⟩
  · obtain rfl := eq_nil_of_replaceAt? (by simp) deeper
    exact ⟨.rootPath, rfl⟩
  · rcases eq_nil_or_singleton_of_replaceAt? (by simp) (by simp) deeper with rfl | ⟨leaf, isLeaf, rfl⟩
    · exact ⟨.brief, rfl⟩
    · simp only [List.map_cons, List.map_nil, List.mem_cons, List.not_mem_nil, or_false] at isLeaf
      rcases isLeaf with rfl | rfl | rfl | rfl
      exacts [⟨.maxTokens, rfl⟩, ⟨.metadataReserve, rfl⟩, ⟨.includeAnalysis, rfl⟩,
        ⟨.includeMemory, rfl⟩]
  · rcases eq_nil_or_singleton_of_replaceAt? (by simp) (by simp [ValueOf.ofTexts]) deeper with
      rfl | ⟨leaf, isLeaf, rfl⟩
    · exact ⟨.listing, rfl⟩
    · simp only [List.map_cons, List.map_nil, List.mem_cons, List.not_mem_nil, or_false] at isLeaf
      rcases isLeaf with rfl | rfl | rfl
      exacts [⟨.excludePatterns, rfl⟩, ⟨.maxFileSize, rfl⟩, ⟨.maxConcurrent, rfl⟩]
  · rcases eq_nil_or_singleton_of_replaceAt? (by simp) (by simp) deeper with rfl | ⟨leaf, isLeaf, rfl⟩
    · exact ⟨.memory, rfl⟩
    · simp only [List.map_cons, List.map_nil, List.mem_cons, List.not_mem_nil, or_false] at isLeaf
      rcases isLeaf with rfl | rfl
      exacts [⟨.conversations, rfl⟩, ⟨.recentFiles, rfl⟩]

/-! ### What is set under a key -/

/-- **The value under a key is read in its place**, and all else is read back as it was. -/
theorem set_text (valid : settings.Valid) (key : Key) (new : Value) :
    settings.set key.text new =
      ((key.names.foldr (fun name => Checked.under (.member name)) (key.read new)).map
        (· settings)).mapError .invalid := by
  have brief := BriefSettings.readSection_toJson valid.brief
  have memory := MemoryLimits.readSection_toJson valid.memory
  have tokens := positiveField_int valid.brief.tokens
  have reserve := shareField_float valid.brief.reserve
  have conversations := limitField_int valid.memory.conversations.1 valid.memory.conversations.2
  have recent := limitField_int valid.memory.recentFiles.1 valid.memory.recentFiles.2
  unfold set
  rw [keyNames_text]
  cases key
  case name | rootPath | brief | listing | memory =>
    simp [Key.names, Key.read, replaceAt?, replaceEntry, List.lookup_cons, toJson, membersOf,
      ofMembers_members, brief, memory, Function.comp_def]
  case maxTokens | metadataReserve | includeAnalysis | includeMemory =>
    simp [Key.names, Key.read, replaceAt?, replaceEntry, List.lookup_cons, toJson, membersOf,
      BriefSettings.toJson, ofMembers_members, BriefSettings.ofMembers_members, memory, tokens,
      reserve, Function.comp_def]
  case excludePatterns | maxFileSize | maxConcurrent =>
    simp [Key.names, Key.read, replaceAt?, replaceEntry, List.lookup_cons, toJson, membersOf,
      ListingSettings.toJson, ofMembers_members, ListingSettings.ofMembers_members, brief, memory,
      Function.comp_def]
  case conversations | recentFiles =>
    simp [Key.names, Key.read, replaceAt?, replaceEntry, List.lookup_cons, toJson, membersOf,
      MemoryLimits.toJson, ofMembers_members, MemoryLimits.ofMembers_members, brief, conversations,
      recent, Function.comp_def]

/-- **A text is refused as an unknown key** just if it is no key at all, whatever the value is. -/
theorem set_eq_unknownKey_iff {text named : String} :
    settings.set text new = .error (.unknownKey named) ↔
      named = text ∧ ∀ key : Key, key.text ≠ text := by
  have unknown : replaceAt? new (keyNames text) settings.toJson = none ↔
      ∀ key : Key, key.text ≠ text := by
    rw [← Option.not_isSome_iff_eq_none, ← not_exists]
    refine not_congr ⟨fun found => ?_, ?_⟩
    · obtain ⟨key, same⟩ := exists_key_of_replaceAt? (keyNames_ne_nil text) found
      exact ⟨key, (keyNames_eq_iff.mp same).symm⟩
    · rintro ⟨key, rfl⟩
      rw [keyNames_text]
      cases key <;>
        simp [Key.names, replaceAt?, List.lookup_cons, toJson, BriefSettings.toJson,
          ListingSettings.toJson, MemoryLimits.toJson]
  rw [← unknown]
  unfold set
  cases replaceAt? new (keyNames text) settings.toJson with
  | none => simp [eq_comm]
  | some changed =>
    refine iff_of_false (fun refused => ?_) (by simp)
    cases read : ofMembers (membersOf changed) <;> simp [read, Except.mapError] at refused

theorem foldr_under_eq_ok {α : Type} (names : List String) {value : Checked α} {held : α} :
    names.foldr (fun name => Checked.under (.member name)) value = .ok held ↔ value = .ok held := by
  induction names with
  | nil => rfl
  | cons name rest ih => exact mapError_eq_ok.trans ih

/-- A value is set under a key just if it can be read there. -/
theorem set_eq_ok_iff (valid : settings.Valid) {key : Key} :
    settings.set key.text new = .ok result ↔
      ∃ change, key.read new = .ok change ∧ change settings = result := by
  rw [set_text valid, mapError_eq_ok, map_eq_ok]
  simp only [foldr_under_eq_ok]

/-- Settings in which a value has been set are valid. -/
theorem valid_of_set {text : String} (done : settings.set text new = .ok result) :
    result.Valid := by
  unfold set at done
  split at done
  · exact valid_of_ofMembers (mapError_eq_ok.mp done)
  · cases done

theorem exists_key_of_set {text : String} (done : settings.set text new = .ok result) :
    ∃ key : Key, key.text = text := by
  by_contra none
  have refused : settings.set text new = .error (.unknownKey text) :=
    set_eq_unknownKey_iff.mpr ⟨rfl, not_exists.mp none⟩
  rw [done] at refused
  cases refused

/-! ### What a key touches -/

section Touched

variable {key leaf : Key} {change : Settings → Settings}

/-- **A leaf that is not under a key stays as it was.** -/
theorem value_of_read (read : key.read new = .ok change) (isLeaf : leaf.isLeaf = true)
    (apart : ¬ key.names <+: leaf.names) (settings : Settings) :
    leaf.value (change settings) = leaf.value settings := by
  cases key <;> obtain ⟨x, -, rfl⟩ := map_eq_ok.mp read <;> cases leaf <;>
    first
    | rfl
    | exact absurd isLeaf (by decide)
    | exact absurd (by decide) apart

/-- What stands under the key is told by the new value. -/
theorem value_own (read : key.read new = .ok change) (settings settings' : Settings) :
    key.value (change settings) = key.value (change settings') := by
  cases key <;> obtain ⟨x, -, rfl⟩ := map_eq_ok.mp read <;> rfl

attribute [ext] BriefSettings ListingSettings MemoryLimits Settings

/-- Settings are told by their leaves. -/
theorem ext_leaves
    (same : ∀ leaf : Key, leaf.isLeaf = true → leaf.value settings = leaf.value settings') :
    settings = settings' := by
  have texts : Function.Injective (ValueOf.ofTexts : List String → Value) := by
    intro left right equal
    exact List.map_injective_iff.mpr (fun _ _ => ValueOf.string.inj) (ValueOf.array.inj equal)
  apply Settings.ext
  case name => exact ValueOf.string.inj (same .name rfl)
  case rootPath => exact ValueOf.string.inj (same .rootPath rfl)
  case brief =>
    apply BriefSettings.ext
    · exact ValueOf.int.inj (same .maxTokens rfl)
    · exact ValueOf.float.inj (same .metadataReserve rfl)
    · exact ValueOf.bool.inj (same .includeAnalysis rfl)
    · exact ValueOf.bool.inj (same .includeMemory rfl)
  case listing =>
    apply ListingSettings.ext
    · exact texts (same .excludePatterns rfl)
    · exact ValueOf.int.inj (same .maxFileSize rfl)
    · exact ValueOf.int.inj (same .maxConcurrent rfl)
  case memory =>
    apply MemoryLimits.ext
    · exact Int.ofNat.inj (ValueOf.int.inj (same .conversations rfl))
    · exact Int.ofNat.inj (ValueOf.int.inj (same .recentFiles rfl))

theorem not_prefix_of_ne {other : Key} (isLeaf : leaf.isLeaf = true) (different : leaf ≠ other) :
    ¬ leaf.names <+: other.names := by
  cases leaf <;> cases other <;>
    first
    | decide
    | exact absurd rfl different
    | cases isLeaf

/-- **The order of two leaves does not matter.** -/
theorem change_comm {left right : Key} {value value' : Value}
    {leftChange rightChange : Settings → Settings} (leftRead : left.read value = .ok leftChange)
    (rightRead : right.read value' = .ok rightChange) (leftLeaf : left.isLeaf = true)
    (rightLeaf : right.isLeaf = true) (different : left ≠ right) (settings : Settings) :
    rightChange (leftChange settings) = leftChange (rightChange settings) := by
  have apart := not_prefix_of_ne leftLeaf different
  have apart' := not_prefix_of_ne rightLeaf different.symm
  refine ext_leaves fun leaf isLeaf => ?_
  by_cases isLeft : leaf = left
  · subst isLeft
    rw [value_of_read rightRead isLeaf apart']
    exact value_own leftRead _ _
  · by_cases isRight : leaf = right
    · subst isRight
      rw [value_of_read leftRead isLeaf apart]
      exact value_own rightRead _ _
    · have beyondLeft := not_prefix_of_ne leftLeaf (Ne.symm isLeft)
      have beyondRight := not_prefix_of_ne rightLeaf (Ne.symm isRight)
      rw [value_of_read rightRead isLeaf beyondRight, value_of_read leftRead isLeaf beyondLeft,
        value_of_read leftRead isLeaf beyondLeft, value_of_read rightRead isLeaf beyondRight]

end Touched

/-! ### Runs of values -/

/-- Settings once a value has been set, or as they were if it is refused. -/
def after (settings : Settings) (call : String × Value) : Settings :=
  match settings.set call.1 call.2 with
  | .ok changed => changed
  | .error _ => settings

/-- Settings after value upon value. -/
def run (settings : Settings) (calls : List (String × Value)) : Settings :=
  calls.foldl after settings

theorem valid_after (valid : settings.Valid) (call : String × Value) :
    (settings.after call).Valid := by
  unfold after
  split
  · rename_i done
    exact valid_of_set done
  · exact valid

theorem valid_run (valid : settings.Valid) (calls : List (String × Value)) :
    (settings.run calls).Valid := by
  unfold run
  induction calls generalizing settings with
  | nil => exact valid
  | cons call rest ih => exact ih (valid_after valid call)

/-- **Setting a value keeps settings valid and touches its key only.** Let settings be valid. A value
is refused with an unknown key just if the text names neither a section nor a leaf, and whenever it
is refused, the settings stay as they are. If it is taken, the settings are valid again, and every
leaf that is neither named by the text nor below it has its value still. So settings are valid after
any run of values; and two values that are taken under different leaves, each on its own, can be
set in either order, with the same settings in the end. -/
theorem set_lawful (valid : settings.Valid) :
    (∀ text new, (∃ named, settings.set text new = .error (.unknownKey named)) ↔
      ∀ key : Key, key.text ≠ text) ∧
    (∀ text new error, settings.set text new = .error error →
      settings.after (text, new) = settings) ∧
    (∀ text new result, settings.set text new = .ok result →
      settings.after (text, new) = result ∧ result.Valid ∧
        ∀ leaf : Key, leaf.isLeaf = true → ¬ keyNames text <+: keyNames leaf.text →
          result.get? leaf.text = settings.get? leaf.text) ∧
    (∀ calls, (settings.run calls).Valid) ∧
    (∀ left right : Key, left.isLeaf = true → right.isLeaf = true → left ≠ right →
      ∀ value value' result result', settings.set left.text value = .ok result →
        settings.set right.text value' = .ok result' →
          ∃ both, result.set right.text value' = .ok both ∧ result'.set left.text value = .ok both) := by
  refine ⟨fun text new => ?_, fun text new error refused => ?_, fun text new result done => ?_,
    valid_run valid, ?_⟩
  · simp only [set_eq_unknownKey_iff, exists_and_right, exists_eq, true_and]
  · simp only [after, refused]
  · refine ⟨by simp only [after, done], valid_of_set done, fun leaf isLeaf apart => ?_⟩
    obtain ⟨key, rfl⟩ := exists_key_of_set done
    obtain ⟨change, read, rfl⟩ := (set_eq_ok_iff valid).mp done
    rw [keyNames_text, keyNames_text] at apart
    rw [get?_text, get?_text, value_of_read read isLeaf apart]
  · intro left right leftLeaf rightLeaf different value value' result result' leftDone rightDone
    have leftValid := valid_of_set leftDone
    have rightValid := valid_of_set rightDone
    obtain ⟨leftChange, leftRead, rfl⟩ := (set_eq_ok_iff valid).mp leftDone
    obtain ⟨rightChange, rightRead, rfl⟩ := (set_eq_ok_iff valid).mp rightDone
    refine ⟨rightChange (leftChange settings), (set_eq_ok_iff leftValid).mpr ⟨_, rightRead, rfl⟩,
      (set_eq_ok_iff rightValid).mpr ⟨_, leftRead, ?_⟩⟩
    exact (change_comm leftRead rightRead leftLeaf rightLeaf different settings).symm

/-- The default settings, with values for two leaves and one that is refused. -/
theorem set_lawful_default :
    let settings : Settings := {}
    let calls := [("context.max_tokens", .string " 5 "), ("memory.max_conversations", .int 0),
      ("context.include_memory", .bool false)]
    settings.Valid ∧ (settings.run calls).Valid ∧
      settings.run calls = { brief := { maxTokens := 5, includeMemory := false } } := by
  intro settings calls
  obtain ⟨-, -, -, runs, -⟩ := set_lawful valid_default
  exact ⟨valid_default, runs calls, by decide +kernel⟩

end CodeBrief.Settings
