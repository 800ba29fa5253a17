/-
**What the scores of an index are entries of.**

Files, functions and classes are scored under keys of one ledger: a file under its path, a function
or class under its own key behind a prefix. The selection reads the keys back. Nothing sets the
paths apart from the other keys, so that all depends on how they begin:

* `itemOf_key` — if no path begins with one of the two prefixes, each key stands for the item that
  it was made for; `holds_of_itemOf` is the converse, whatever the paths are.
* `entries_scores` — then the entries of the scores are the items of the index in order, each with
  its score. A member is scored when the scores of files are in the ledger, together with those of
  other members, and reads off the score of its file. That is the one of `ofFiles`, as members are
  entered under keys that are not paths (`withMembers_eq`).
* `scores_resolve_iff` — the entries stand for the items of the index, each with its score, exactly
  if no path begins with one of the prefixes. `not_resolves_taggedPath` is a path that does.
-/

import CodeBrief.Proofs.Index.Keys
import CodeBrief.Proofs.Selection.Contents

namespace CodeBrief

open Selection (Item itemOf after? after?_eq_none after?_eq_some)
open Relevance (functionPrefix classPrefix)

/-! ### The items of an index -/

/-- The key under which an item is scored. -/
def Selection.Item.key : Item → String
  | .file path _ => path
  | .function record => functionPrefix ++ record.key
  | .class record => classPrefix ++ record.key
  | .unknown => ""

/-- The files, the functions and the classes of an index. -/
def Index.items (index : Index) : List Item :=
  (index.files.entries.map fun entry => .file entry.1 entry.2) ++
    (index.functions.entries.map fun entry => .function entry.2) ++
    index.classes.entries.map fun entry => .class entry.2

/-- Whether an index holds an item, a function or class under its own key. -/
def Index.Holds (index : Index) : Item → Prop
  | .file path content => index.files.get? path = some content
  | .function record => index.functions.get? record.key = some record
  | .class record => index.classes.get? record.key = some record
  | .unknown => False

theorem Index.Keyed.function_of_mem {index : Index} (keyed : index.Keyed)
    {entry : String × FunctionRecord} (member : entry ∈ index.functions.entries) :
    entry.2.key = entry.1 :=
  keyed.functions _ _ (Ledger.get?_eq_some_iff.mpr member)

theorem Index.Keyed.class_of_mem {index : Index} (keyed : index.Keyed)
    {entry : String × ClassRecord} (member : entry ∈ index.classes.entries) :
    entry.2.key = entry.1 :=
  keyed.classes _ _ (Ledger.get?_eq_some_iff.mpr member)

/-- **The items of an index are those that it holds.** -/
theorem Index.Keyed.mem_items_iff {index : Index} (keyed : index.Keyed) {item : Item} :
    item ∈ index.items ↔ index.Holds item := by
  unfold Index.items
  rw [List.mem_append, List.mem_append, List.mem_map, List.mem_map, List.mem_map]
  cases item with
  | file path content => simp [Index.Holds, Ledger.get?_eq_some_iff]
  | function record =>
    have own : (∃ entry ∈ index.functions.entries, entry.2 = record) ↔
        (record.key, record) ∈ index.functions.entries := by
      constructor
      · rintro ⟨⟨key, record⟩, inside, rfl⟩
        rw [keyed.function_of_mem inside]
        exact inside
      · exact fun inside => ⟨_, inside, rfl⟩
    simpa [Index.Holds, Ledger.get?_eq_some_iff] using own
  | «class» record =>
    have own : (∃ entry ∈ index.classes.entries, entry.2 = record) ↔
        (record.key, record) ∈ index.classes.entries := by
      constructor
      · rintro ⟨⟨key, record⟩, inside, rfl⟩
        rw [keyed.class_of_mem inside]
        exact inside
      · exact fun inside => ⟨_, inside, rfl⟩
    simpa [Index.Holds, Ledger.get?_eq_some_iff] using own
  | unknown => simp [Index.Holds]

namespace Relevance

/-- A path that is not taken for the key of a function or a class. -/
def IsPlain (path : String) : Prop :=
  ¬ functionPrefix.toList <+: path.toList ∧ ¬ classPrefix.toList <+: path.toList

instance (path : String) : Decidable (IsPlain path) :=
  inferInstanceAs (Decidable (_ ∧ _))

theorem after?_append (start inner : String) : after? start (start ++ inner) = some inner := by
  unfold after?
  rw [String.toList_append, Pattern.dropPrefix?_eq_some.mpr rfl, Option.map_some,
    String.ofList_toList]

theorem after?_functionPrefix_class (inner : String) :
    after? functionPrefix (classPrefix ++ inner) = none := by
  rw [after?_eq_none, String.toList_append]
  intro begins
  have first : functionPrefix.toList.head? = some 'c' := by
    obtain ⟨rest, same⟩ := begins
    exact congrArg List.head? same
  exact absurd first (by decide)

section Keys

variable {index : Index}

theorem itemOf_functionKey {key : String} {record : FunctionRecord}
    (held : index.functions.get? key = some record) :
    itemOf index (functionPrefix ++ key) = .function record := by
  unfold itemOf
  simp only [after?_append, held]

theorem itemOf_classKey {key : String} {record : ClassRecord}
    (held : index.classes.get? key = some record) :
    itemOf index (classPrefix ++ key) = .class record := by
  unfold itemOf
  simp only [after?_functionPrefix_class, after?_append, held]

theorem itemOf_path {path content : String} (plain : IsPlain path)
    (held : index.files.get? path = some content) :
    itemOf index path = .file path content := by
  unfold itemOf
  simp only [after?_eq_none.mpr plain.1, after?_eq_none.mpr plain.2, held]

/-- **Each key stands for the item that it was made for**, if the paths are plain. -/
theorem itemOf_key (plain : ∀ path ∈ index.files.names, IsPlain path) {item : Item}
    (held : index.Holds item) : itemOf index item.key = item := by
  cases item with
  | file path content =>
    have isFile : path ∈ index.files.names := Ledger.isSome_get?_iff.mp (by rw [held]; rfl)
    exact itemOf_path (plain path isFile) held
  | function record => exact itemOf_functionKey held
  | «class» record => exact itemOf_classKey held
  | unknown => exact held.elim

/-- **What a key stands for is held** by the index, and was given this key. -/
theorem holds_of_itemOf (keyed : index.Keyed) {key : String} {item : Item}
    (same : itemOf index key = item) (known : item ≠ .unknown) :
    index.Holds item ∧ item.key = key := by
  unfold itemOf at same
  split at same
  · rename_i inner begins
    split at same
    · rename_i record held
      subst same
      obtain rfl := keyed.functions _ _ held
      exact ⟨held, (after?_eq_some begins).symm⟩
    · exact absurd same.symm known
  · split at same
    · rename_i inner begins
      split at same
      · rename_i record held
        subst same
        obtain rfl := keyed.classes _ _ held
        exact ⟨held, (after?_eq_some begins).symm⟩
      · exact absurd same.symm known
    · split at same
      · rename_i content held
        subst same
        exact ⟨held, rfl⟩
      · exact absurd same.symm known

/-- The keys of the items, kind by kind. -/
theorem map_key_items (keyed : index.Keyed) :
    index.items.map Item.key = index.files.names ++
      index.functions.names.map (functionPrefix ++ ·) ++
      index.classes.names.map (classPrefix ++ ·) := by
  unfold Index.items Ledger.names
  simp only [List.map_append, List.map_map]
  congr 1
  · congr 1
    refine List.map_congr_left fun entry member => ?_
    exact congrArg (functionPrefix ++ ·) (keyed.function_of_mem member)
  · refine List.map_congr_left fun entry member => ?_
    exact congrArg (classPrefix ++ ·) (keyed.class_of_mem member)

theorem functionKey_injective : Function.Injective (functionPrefix ++ ·) := by
  intro left right same
  have read := congrArg (after? functionPrefix) same
  simpa only [after?_append, Option.some.injEq] using read

theorem classKey_injective : Function.Injective (classPrefix ++ ·) := by
  intro left right same
  have read := congrArg (after? classPrefix) same
  simpa only [after?_append, Option.some.injEq] using read

theorem functionKey_ne_classKey (left right : String) :
    functionPrefix ++ left ≠ classPrefix ++ right := by
  intro same
  have read := congrArg (after? functionPrefix) same
  rw [after?_append, after?_functionPrefix_class] at read
  cases read

theorem IsPlain.ne_functionKey {path : String} (plain : IsPlain path) (key : String) :
    path ≠ functionPrefix ++ key := by
  rintro rfl
  exact plain.1 ⟨key.toList, String.toList_append.symm⟩

theorem IsPlain.ne_classKey {path : String} (plain : IsPlain path) (key : String) :
    path ≠ classPrefix ++ key := by
  rintro rfl
  exact plain.2 ⟨key.toList, String.toList_append.symm⟩

/-- **No two items have the same key**, if the paths are plain. -/
theorem nodup_keys_items (keyed : index.Keyed) (plain : ∀ path ∈ index.files.names, IsPlain path) :
    (index.items.map Item.key).Nodup := by
  rw [map_key_items keyed]
  refine List.nodup_append.mpr ⟨List.nodup_append.mpr ⟨index.files.distinct, ?_, ?_⟩, ?_, ?_⟩
  · exact index.functions.distinct.map functionKey_injective
  · intro path isFile key isFunction
    obtain ⟨inner, -, rfl⟩ := List.mem_map.mp isFunction
    exact (plain path isFile).ne_functionKey inner
  · exact index.classes.distinct.map classKey_injective
  · intro key fileOrFunction key' isClass
    obtain ⟨inner, -, rfl⟩ := List.mem_map.mp isClass
    rcases List.mem_append.mp fileOrFunction with isFile | isFunction
    · exact (plain key isFile).ne_classKey inner
    · obtain ⟨other, -, rfl⟩ := List.mem_map.mp isFunction
      exact functionKey_ne_classKey other inner

end Keys

/-! ### Members -/

section Members

variable {β : Type} (tag : String) (words : List String) (pathOf nameOf : β → String)

/-- Some scores with those of members, under their keys behind `tag`. -/
def withMembers (members : List (String × β)) (sofar : Ledger Int) : Ledger Int :=
  members.foldl (fun scores (key, record) =>
    scores.put (tag ++ key) (memberScore scores words (pathOf record) (nameOf record))) sofar

theorem names_prefix_withMembers (members : List (String × β)) (sofar : Ledger Int) :
    sofar.names <+: (withMembers tag words pathOf nameOf members sofar).names := by
  induction members generalizing sofar with
  | nil => exact List.prefix_rfl
  | cons member rest ih => exact (Ledger.names_prefix_put sofar _ _).trans (ih _)

/-- The members under their keys, each with its score for the scores `base`. -/
def memberPairs (base : Ledger Int) (members : List (String × β)) : List (String × Int) :=
  members.map fun (key, record) =>
    (tag ++ key, memberScore base words (pathOf record) (nameOf record))

variable {pathOf}

/-- **Members score as they do for `base`**, if it agrees with the scores so far on their paths, and
none of these paths is a key behind `tag`. -/
theorem withMembers_eq {members : List (String × β)} {sofar base : Ledger Int}
    (same : ∀ member ∈ members, sofar.get? (pathOf member.2) = base.get? (pathOf member.2))
    (apart : ∀ member ∈ members, ∀ key, pathOf member.2 ≠ tag ++ key) :
    withMembers tag words pathOf nameOf members sofar =
      (memberPairs tag words pathOf nameOf base members).foldl
        (fun scores pair => scores.put pair.1 pair.2) sofar := by
  induction members generalizing sofar with
  | nil => rfl
  | cons member rest ih =>
    obtain ⟨key, record⟩ := member
    have first : memberScore sofar words (pathOf record) (nameOf record) =
        memberScore base words (pathOf record) (nameOf record) := by
      unfold memberScore
      rw [same _ List.mem_cons_self]
    -- The score that is entered first stands under a key that is no path of a member.
    have later : ∀ member ∈ rest,
        (sofar.put (tag ++ key) (memberScore sofar words (pathOf record) (nameOf record))).get?
          (pathOf member.2) = base.get? (pathOf member.2) := by
      intro member inside
      have inAll := List.mem_cons_of_mem (key, record) inside
      rw [Ledger.get?_put, if_neg (apart member inAll key)]
      exact same member inAll
    have rest' := ih later fun member inside => apart member (List.mem_cons_of_mem _ inside)
    rw [first] at rest'
    show withMembers tag words pathOf nameOf rest (sofar.put (tag ++ key) _) = _
    rw [first, rest']
    rfl

end Members

/-! ### The scores of an index -/

section Scores

variable (index : Index) (graph : ImportGraph) (recent : List String) (words : List String)
  (intent : Intent)

/-- The scores of the files. -/
def ofFiles : Ledger Int :=
  index.files.mapValues fun path content => (fileScore graph recent words intent path content : Int)

/-- The score of an item: a file's own, and for a member the one of its file, and more if it is
named. -/
def scoreOf : Item → Int
  | .file path content => fileScore graph recent words intent path content
  | .function record =>
    memberScore (ofFiles index graph recent words intent) words record.path record.name
  | .class record =>
    memberScore (ofFiles index graph recent words intent) words record.path record.name
  | .unknown => 0

/-- The functions and classes under their keys, each with its score. -/
def ofMembers : List (String × Int) :=
  memberPairs functionPrefix words FunctionRecord.path FunctionRecord.name
      (ofFiles index graph recent words intent) index.functions.entries ++
    memberPairs classPrefix words ClassRecord.path ClassRecord.name
      (ofFiles index graph recent words intent) index.classes.entries

variable {index}

theorem map_scoreOf_items (keyed : index.Keyed) :
    index.items.map (fun item => (item.key, scoreOf index graph recent words intent item)) =
      (ofFiles index graph recent words intent).entries ++
        ofMembers index graph recent words intent := by
  unfold Index.items ofMembers memberPairs
  rw [List.map_append, List.map_append, List.map_map, List.map_map, List.map_map, List.append_assoc]
  congr 1
  congr 1
  · refine List.map_congr_left fun entry member => Prod.ext ?_ rfl
    exact congrArg (functionPrefix ++ ·) (keyed.function_of_mem member)
  · refine List.map_congr_left fun entry member => Prod.ext ?_ rfl
    exact congrArg (classPrefix ++ ·) (keyed.class_of_mem member)

variable (index)

/-- The functions are scored after the files, and the classes last. -/
theorem scores_eq_withMembers (query : String) :
    scores index graph recent query intent =
      withMembers classPrefix (queryWords query) ClassRecord.path ClassRecord.name
        index.classes.entries
        (withMembers functionPrefix (queryWords query) FunctionRecord.path FunctionRecord.name
          index.functions.entries (ofFiles index graph recent (queryWords query) intent)) := rfl

theorem names_prefix_scores (query : String) :
    index.files.names <+: (scores index graph recent query intent).names := by
  have files : (ofFiles index graph recent (queryWords query) intent).names = index.files.names :=
    Ledger.names_mapValues _ _
  rw [scores_eq_withMembers, ← files]
  exact (names_prefix_withMembers _ _ _ _ _ _).trans (names_prefix_withMembers _ _ _ _ _ _)

end Scores

section Build

variable {files : Ledger String} (graph : ImportGraph) (recent : List String) (query : String)
  (intent : Intent)

/-- A function of an index has the path of a file. -/
theorem path_mem_names_of_function {entry : String × FunctionRecord}
    (member : entry ∈ (Index.build files).functions.entries) : entry.2.path ∈ files.names := by
  obtain ⟨-, content, isFile, -⟩ :=
    Index.origin_of_functions_get? (Ledger.get?_eq_some_iff.mpr member)
  exact Ledger.isSome_get?_iff.mp (by rw [isFile]; rfl)

/-- So has a class. -/
theorem path_mem_names_of_class {entry : String × ClassRecord}
    (member : entry ∈ (Index.build files).classes.entries) : entry.2.path ∈ files.names := by
  obtain ⟨-, content, isFile, -⟩ :=
    Index.origin_of_classes_get? (Ledger.get?_eq_some_iff.mpr member)
  exact Ledger.isSome_get?_iff.mp (by rw [isFile]; rfl)

/-- Every member has its score for the scores of the files, if the paths are plain. -/
theorem scores_build (plain : ∀ path ∈ files.names, IsPlain path) :
    scores (Index.build files) graph recent query intent =
      (ofMembers (Index.build files) graph recent (queryWords query) intent).foldl
        (fun scores pair => scores.put pair.1 pair.2)
        (ofFiles (Index.build files) graph recent (queryWords query) intent) := by
  rw [scores_eq_withMembers, ofMembers, List.foldl_append]
  rw [withMembers_eq functionPrefix _ _ (fun _ _ => rfl) fun member inside =>
    (plain _ (path_mem_names_of_function inside)).ne_functionKey]
  refine withMembers_eq classPrefix _ _ (fun member inside => ?_) fun member inside =>
    (plain _ (path_mem_names_of_class inside)).ne_classKey
  -- The functions have been entered under keys that are no paths of classes.
  refine Ledger.get?_foldl_put _ _ fun isFunction => ?_
  obtain ⟨pair, entered, same⟩ := List.mem_map.mp isFunction
  obtain ⟨function, -, rfl⟩ := List.mem_map.mp entered
  exact (plain _ (path_mem_names_of_class inside)).ne_functionKey function.1 same.symm

/-- **The entries of the scores are the items of the index** in order, each under its key and with
its score, if the paths are plain. -/
theorem entries_scores (plain : ∀ path ∈ files.names, IsPlain path) :
    (scores (Index.build files) graph recent query intent).entries =
      (Index.build files).items.map fun item =>
        (item.key, scoreOf (Index.build files) graph recent (queryWords query) intent item) := by
  have keyed := Index.keyed_build files
  have pairs := map_scoreOf_items graph recent (queryWords query) intent keyed
  rw [scores_build graph recent query intent plain, pairs]
  have keys : (Index.build files).items.map Item.key =
      (ofFiles (Index.build files) graph recent (queryWords query) intent).names ++
        (ofMembers (Index.build files) graph recent (queryWords query) intent).map Prod.fst := by
    have firsts := congrArg (List.map Prod.fst) pairs
    rw [List.map_map, List.map_append] at firsts
    exact firsts
  have distinct := nodup_keys_items keyed plain
  rw [keys] at distinct
  exact (Ledger.entries_foldl_put _ _).trans (foldl_putEntry _ _ distinct)

variable (files)

/-- **The entries of the scores stand for the items of the index**, each with its score, exactly if
no path begins as the keys of functions or classes do. -/
theorem scores_resolve_iff :
    ((scores (Index.build files) graph recent query intent).entries.map fun entry =>
        (itemOf (Index.build files) entry.1, entry.2)) =
      ((Index.build files).items.map fun item =>
        (item, scoreOf (Index.build files) graph recent (queryWords query) intent item)) ↔
      ∀ path ∈ files.names, IsPlain path := by
  constructor
  · intro resolved path isFile
    -- The paths are the first names of the scores, and the files are the first items.
    have items := congrArg (List.map Prod.fst) resolved
    rw [List.map_map, List.map_map] at items
    have names : (scores (Index.build files) graph recent query intent).names.map
        (itemOf (Index.build files)) = (Index.build files).items := by
      rw [Ledger.names, List.map_map]
      exact items.trans (List.map_id _)
    obtain ⟨members, all⟩ := names_prefix_scores (Index.build files) graph recent intent query
    rw [← all, List.map_append, Index.items, List.append_assoc] at names
    have first := (List.append_inj names (by simp [Ledger.names])).1
    obtain ⟨⟨path, content⟩, inside, rfl⟩ := List.mem_map.mp isFile
    rw [Ledger.names, List.map_map] at first
    have item : itemOf (Index.build files) path = .file path content :=
      List.map_inj_left.mp first _ inside
    obtain ⟨noFunction, noClass, -⟩ := Selection.namesFile_iff.mpr ⟨_, _, item⟩
    exact ⟨noFunction, noClass⟩
  · intro plain
    rw [entries_scores graph recent query intent plain, List.map_map]
    refine List.map_congr_left fun item member => Prod.ext ?_ rfl
    exact itemOf_key plain ((Index.keyed_build files).mem_items_iff.mp member)

/-- A file whose path begins as the keys of functions do is scored, and nothing is found under its
key. -/
theorem not_resolves_taggedPath :
    let index := Index.build (.ofList [("function:a.js", "hello")])
    let entries := (scores index {} [] "hello" (.classify "hello")).entries
    index.items = [.file "function:a.js" "hello"] ∧ entries = [("function:a.js", 2)] ∧
      entries.map (fun entry => itemOf index entry.1) = [.unknown] := by
  decide +kernel

/-- A file whose path is the key of a function of another file. -/
example :
    let index := Index.build (.ofList [("a.js", "function f() {}"), ("function:a.js:f", "x")])
    index.items.length = 3 ∧ (scores index {} [] "" {}).size = 2 := by
  decide +kernel

end Build

end Relevance

end CodeBrief
