/-
**Directories that are left out by name.**

A line with a plain name, with or without a slash at its end, leaves out the entry with this name and
all that lies below it. A slash in front makes a line void: paths are relative, and no relative path
matches a pattern that begins with a slash.

* `listWithout_unanchored` — patterns that begin with a slash make no difference to a listing.
* `isUnlisted_iff` — nothing at or below a directory is listed just if its path matches a pattern.
* `mem_ignorePatterns_of_isBareLine` — the pattern of a line with a plain name.
* `isUnlisted_iff_unanchored` — which directories are left out of the listing of a tree;
  `listed_anchoredLine` is one that is listed although a line with a slash in front names it.
-/

import CodeBrief.Proofs.Ranking
import CodeBrief.Proofs.Repository.Globs
import CodeBrief.Proofs.Repository.Holding
import CodeBrief.Proofs.Repository.Places

namespace CodeBrief.FileTree

/-! ### What lies below a directory -/

/-- A place that is not told from the root of the system is told by steps, and so are all ends of
places. -/
theorem isStep_of_mem_drop {place : List String} (isPlace : IsPlace place) (start : Nat)
    (relative : isOfSystem (place.drop start) = false) :
    ∀ name ∈ place.drop start, IsStep name := by
  obtain ⟨root, steps, isStart, rfl, are⟩ := isPlace
  rcases isStart with rfl | rfl
  · exact fun name member => are name (List.mem_of_mem_drop member)
  · cases start with
    | zero => exact absurd relative (by simp [isOfSystem])
    | succ start => exact fun name member => are name (List.mem_of_mem_drop member)

section Below

variable {tree : FileTree} (named : tree.base = [upward] → IsName tree.name)
include named

theorem isStep_of_namesBelow? {place names : List String} (isPlace : IsPlace place)
    (below : tree.namesBelow? place = some names) :
    names ≠ [] ∧ ∀ name ∈ names, IsStep name := by
  unfold namesBelow? at below
  split at below
  · rename_i up
    obtain ⟨base, relative, -⟩ := up
    obtain rfl := Option.some.inj below
    refine ⟨List.cons_ne_nil _ _, List.forall_mem_cons.mpr ⟨(named base).isStep, ?_⟩⟩
    exact isStep_of_mem_drop isPlace 0 (by simpa using relative)
  · dsimp only at below
    split at below
    · rename_i _ within
      obtain rfl := Option.some.inj below
      simp only [Bool.and_eq_true, Bool.not_eq_eq_eq_not, Bool.not_true,
        List.isEmpty_eq_false_iff] at within
      exact ⟨within.1.1.2, isStep_of_mem_drop isPlace _ within.1.2⟩
    · cases below

/-- What lies below a directory is told by steps. -/
theorem isStep_of_mem_placesBelow {place : Place} (member : place ∈ tree.placesBelow) :
    place.1 ≠ [] ∧ ∀ name ∈ place.1, IsStep name := by
  obtain ⟨⟨path, node⟩, -, found⟩ := List.mem_filterMap.mp member
  obtain ⟨names, below, rfl⟩ := Option.map_eq_some_iff.mp found
  refine isStep_of_namesBelow? named ?_ below
  split
  · exact ⟨[], [], .inl rfl, rfl, nofun⟩
  · refine ⟨startOf [] path, Path.names path, ?_, rfl, fun name => Path.isStep_of_mem_names⟩
    unfold startOf IsStart
    split <;> simp

end Below

/-! ### Patterns that begin with a slash -/

/-- Whether a pattern begins with a slash. -/
def isAnchored (pattern : String) : Bool :=
  pattern.toList.head? == some '/'

/-- The patterns that do not begin with a slash. -/
def unanchored (patterns : List String) : List String :=
  patterns.filter fun pattern => !isAnchored pattern

theorem parts_pathOf {steps : List String} (are : ∀ step ∈ steps, IsStep step) :
    Path.parts (pathOf steps) = steps := by
  have root : (Path.root (pathOf steps)).isEmpty = true := (isEmpty_root_iff _).mpr (head?_pathOf are)
  rw [Path.parts, if_pos root, List.nil_append, Path.names_pathOf_of_isStep are]

theorem accepts_of_isAnchored {pattern text : String} (anchored : isAnchored pattern = true)
    (relative : text.toList.head? ≠ some '/') : Glob.accepts (Glob.ofText pattern) text = false := by
  rw [isAnchored, beq_iff_eq] at anchored
  obtain ⟨rest, begins⟩ := List.head?_eq_some_iff.mp anchored
  by_contra accepted
  obtain ⟨later, same⟩ :=
    Glob.exists_cons_of_accepts (by decide) begins (Bool.eq_true_of_not_eq_false accepted)
  exact relative (by rw [same]; rfl)

/-- **No relative path matches a pattern that begins with a slash.** -/
theorem isExcluded_unanchored (patterns : List String) {steps : List String}
    (are : ∀ step ∈ steps, IsStep step) :
    isExcluded (unanchored patterns) (pathOf steps) = isExcluded patterns (pathOf steps) := by
  have relative : ∀ step ∈ steps, step.toList.head? ≠ some '/' := by
    intro step member slash
    obtain ⟨rest, begins⟩ := List.head?_eq_some_iff.mp slash
    exact (are step member).noSlash (by simp [begins])
  rw [Bool.eq_iff_iff]
  simp only [isExcluded, unanchored, List.any_eq_true, List.mem_filter, parts_pathOf are]
  constructor
  · rintro ⟨pattern, ⟨member, -⟩, matched⟩
    exact ⟨pattern, member, matched⟩
  · rintro ⟨pattern, member, matched⟩
    refine ⟨pattern, ⟨member, ?_⟩, matched⟩
    rw [Bool.not_eq_true']
    by_contra anchored
    have anchored := Bool.eq_true_of_not_eq_false anchored
    rw [Bool.or_eq_true, accepts_of_isAnchored anchored (head?_pathOf are), List.any_eq_true]
      at matched
    obtain ⟨step, within, matched⟩ := matched.resolve_left Bool.false_ne_true
    rw [accepts_of_isAnchored anchored (relative step within)] at matched
    cases matched

/-- A walk comes to the same if the same is left out. -/
theorem walk_congr {patterns patterns' : List String} {places : List Place}
    (same : ∀ place ∈ places,
      isExcluded patterns (pathOf place.1) = isExcluded patterns' (pathOf place.1))
    (depth : Nat) (here : List String) :
    walk patterns places depth here = walk patterns' places depth here := by
  induction depth generalizing here with
  | zero => rfl
  | succ depth ih =>
    have kept : ((placesIn places here).filter fun place =>
        !isExcluded patterns (pathOf place.1)) =
          (placesIn places here).filter fun place => !isExcluded patterns' (pathOf place.1) :=
      List.filter_congr fun place member => by rw [same place (List.mem_filter.mp member).1]
    rw [walk, walk, kept]
    simp only [ih]

/-- **Patterns that begin with a slash make no difference to a listing.** -/
theorem listWithout_unanchored {tree : FileTree} (named : tree.base = [upward] → IsName tree.name)
    (patterns : List String) (maxSize : Int) :
    tree.listWithout (unanchored patterns) maxSize = tree.listWithout patterns maxSize := by
  unfold listWithout
  dsimp only
  rw [walk_congr fun place member =>
    isExcluded_unanchored patterns (isStep_of_mem_placesBelow named member).2]

/-! ### Directories that are listed -/

/-- A path is that of the entry with a name or of something below it. -/
def IsAtOrBelow (name path : String) : Prop :=
  path = name ∨ ∃ rest, path = name ++ "/" ++ rest

/-- Nothing at or below the entry with a name is listed. -/
def IsUnlisted (entries : List Entry) (name : String) : Prop :=
  ∀ entry ∈ entries, ¬ IsAtOrBelow name entry.path

/-- In the directory at which paths begin lies a directory with a name, or a link to a directory. -/
def HasDirectory (tree : FileTree) (name : String) : Prop :=
  ∃ node entry, ([name], node) ∈ tree.placesBelow ∧ tree.entry? name node = some entry ∧
    entry.kind = .directory

theorem pathOf_singleton (name : String) : pathOf [name] = name := by
  simp [pathOf]

theorem path_of_told {tree : FileTree} {path : String} {node : Node} {entry : Entry}
    (told : tree.entry? path node = some entry) : entry.path = path := by
  cases node with
  | link target =>
    obtain ⟨found, -, rfl⟩ := Option.map_eq_some_iff.mp told
    rfl
  | _ =>
    obtain rfl := Option.some.inj told
    rfl

/-- A slash divides the names of a path. -/
theorem names_slash_append (front rest : String) :
    Path.names (front ++ "/" ++ rest) = Path.names front ++ Path.names rest := by
  have parts : Path.segments (front ++ "/" ++ rest) =
      Path.segments front ++ Path.segments rest := by
    have slash : (front ++ "/" ++ rest).toList = front.toList ++ '/' :: rest.toList := by simp
    rw [Path.segments, slash]
    exact Text.pieces_append rfl front.toList rest.toList
  rw [Path.names, parts, List.filter_append, List.map_append]
  rfl

/-- What is at or below the entry with a name is told by names that begin with it. -/
theorem prefix_of_isAtOrBelow {name : String} (isName : IsName name) {steps : List String}
    (are : ∀ step ∈ steps, IsStep step) (under : IsAtOrBelow name (pathOf steps)) :
    [name] <+: steps := by
  have own : Path.names name = [name] := by
    have single := Path.names_pathOf_of_isStep (List.forall_mem_singleton.mpr isName.isStep)
    rwa [pathOf_singleton] at single
  rw [← Path.names_pathOf_of_isStep are]
  rcases under with same | ⟨rest, same⟩
  · have whole : Path.names (pathOf steps) = [name] := (congrArg Path.names same).trans own
    exact whole ▸ List.prefix_rfl
  · rw [same, names_slash_append, own]
    exact List.prefix_append [name] _

/-- **Nothing at or below a directory is listed just if its path matches a pattern.** -/
theorem isUnlisted_iff {tree : FileTree} (named : tree.base = [upward] → IsName tree.name)
    {name : String} (isName : IsName name) (directory : tree.HasDirectory name)
    (patterns : List String) (maxSize : Int) :
    IsUnlisted (tree.listWithout patterns maxSize) name ↔ isExcluded patterns name = true := by
  unfold IsUnlisted listWithout Entry.sort
  simp only [(sortBy_perm _ _).mem_iff, List.mem_filter, List.mem_filterMap]
  constructor
  · intro unlisted
    -- Unless its path matches a pattern, the walk begins with the directory itself.
    by_contra kept
    rw [Bool.not_eq_true] at kept
    obtain ⟨node, entry, lies, told, kind⟩ := directory
    have path := path_of_told told
    obtain ⟨depth, deep⟩ := Nat.exists_eq_add_of_le' (length_le_depthOf lies)
    have listed : isListed maxSize entry = true := by simp [isListed, kind]
    refine unlisted entry ⟨⟨([name], node), ?_, ?_⟩, listed⟩ (.inl path)
    · rw [deep, List.length_singleton]
      refine mem_walk_succ.mpr (.inl ⟨mem_placesIn.mpr ⟨lies, name, rfl⟩, ?_⟩)
      rwa [pathOf_singleton]
    · rwa [pathOf_singleton]
  · rintro excluded entry ⟨⟨place, reached, told⟩, -⟩ under
    obtain ⟨lies, -, -, kept⟩ := isReached_of_mem_walk reached
    rw [path_of_told told] at under
    have before := prefix_of_isAtOrBelow isName (isStep_of_mem_placesBelow named lies).2 under
    have notExcluded := kept [name] before Nat.zero_lt_one
    rw [pathOf_singleton, excluded] at notExcluded
    cases notExcluded

/-! ### Lines with plain names -/

/-- A name that stands for itself on a line: it has no signs and no blanks at its ends, and it does not
begin like a remark. -/
structure IsPlainName (name : String) : Prop extends IsName name where
  noSign : name.toList.any Glob.isSign = false
  noRemark : name.toList.head? ≠ some '#'
  noBlank : Text.strip name.toList = name.toList

/-- A line with a name, with or without a slash at its end. -/
def IsBareLine (name : String) (line : List Char) : Prop :=
  line = name.toList ∨ line = name.toList ++ ['/']

theorem trimRight_concat (drop : Char → Bool) (text : List Char) (c : Char) :
    Text.trimRight drop (text ++ [c]) =
      if drop c then Text.trimRight drop text else text ++ [c] := by
  rw [Text.trimRight, List.reverse_append, List.reverse_singleton, List.singleton_append,
    List.dropWhile_cons]
  split
  · rfl
  · simp

theorem trimRight_of_free {drop : Char → Bool} {text : List Char}
    (free : ∀ c ∈ text, drop c = false) : Text.trimRight drop text = text := by
  rcases List.eq_nil_or_concat' text with rfl | ⟨front, last, rfl⟩
  · rfl
  · rw [trimRight_concat, free last (by simp)]
    rfl

theorem length_trimRight_le (drop : Char → Bool) (text : List Char) :
    (Text.trimRight drop text).length ≤ text.length := by
  have shorter := (List.dropWhile_suffix drop : text.reverse.dropWhile drop <:+ _).length_le
  rw [List.length_reverse] at shorter
  rwa [Text.trimRight, List.length_reverse]

/-- A text without blanks at its ends begins with none. -/
theorem dropWhile_of_strip {text : List Char} (stripped : Text.strip text = text) :
    text.dropWhile Text.isBlank = text := by
  have shorter := length_trimRight_le Text.isBlank (text.dropWhile Text.isBlank)
  rw [← Text.strip, stripped] at shorter
  exact (List.dropWhile_suffix Text.isBlank).eq_of_length_le shorter

section Plain

variable {name : String} (plain : IsPlainName name)
include plain

theorem IsPlainName.toList_ne_nil : name.toList ≠ [] := by
  simpa using plain.nonempty

/-- A line with a plain name is told without the blanks at its ends. -/
theorem strip_of_isBareLine {line : List Char} (bare : IsBareLine name line) :
    Text.strip line = line := by
  rcases bare with rfl | rfl
  · exact plain.noBlank
  · obtain ⟨c, rest, spelling⟩ := List.exists_cons_of_ne_nil plain.toList_ne_nil
    have front := dropWhile_of_strip plain.noBlank
    have visible : Text.isBlank c = false := by
      rw [spelling, List.dropWhile_cons] at front
      by_contra blank
      rw [Bool.not_eq_false] at blank
      rw [if_pos blank] at front
      have shorter := (List.dropWhile_suffix Text.isBlank (l := rest)).length_le
      rw [front, List.length_cons] at shorter
      omega
    rw [Text.strip, spelling, List.cons_append, List.dropWhile_cons_of_neg (by simp [visible]),
      ← List.cons_append, trimRight_concat]
    rfl

/-- **The pattern of a line with a plain name is the name.** -/
theorem mem_ignorePatterns_of_isBareLine {text line : List Char} (member : line ∈ Text.lines text)
    (bare : IsBareLine name line) : name ∈ ignorePatterns text := by
  have noSlash : ∀ c ∈ name.toList, (c == '/') = false := by
    intro c within
    rw [beq_eq_false_iff_ne]
    rintro rfl
    exact plain.noSlash within
  refine List.mem_map.mpr ⟨line, List.mem_filter.mpr ⟨?_, ?_⟩, ?_⟩
  · exact List.mem_map.mpr ⟨line, member, strip_of_isBareLine plain bare⟩
  · obtain ⟨c, rest, spelling⟩ := List.exists_cons_of_ne_nil plain.toList_ne_nil
    have notRemark := plain.noRemark
    rw [spelling, List.head?_cons] at notRemark
    rcases bare with rfl | rfl <;> simpa [spelling] using notRemark
  · rcases bare with rfl | rfl
    · rw [trimRight_of_free noSlash, String.ofList_toList]
    · rw [trimRight_concat, if_pos (beq_self_eq_true _), trimRight_of_free noSlash,
        String.ofList_toList]

theorem not_isAnchored : isAnchored name = false := by
  obtain ⟨c, rest, spelling⟩ := List.exists_cons_of_ne_nil plain.toList_ne_nil
  have noSlash := plain.noSlash
  rw [isAnchored, spelling, List.head?_cons, beq_eq_false_iff_ne]
  rintro ⟨⟩
  exact noSlash (by simp [spelling])

/-- A plain name among some patterns leaves out the entry with that name. -/
theorem isExcluded_of_mem {patterns : List String} (member : name ∈ patterns) :
    isExcluded patterns name = true := by
  have bare : ∀ c ∈ name.toList, Glob.isSign c = false := by simpa using plain.noSign
  have accepted := (Glob.accepts_ofText_plain bare name).mpr rfl
  exact List.any_eq_true.mpr ⟨name, member, Bool.or_eq_true_iff.mpr (.inl accepted)⟩

end Plain

/-! ### Listings of trees with such lines -/

/-- **Which directories are left out of a listing.** Nothing at or below a directory with a plain name
is listed just if its name matches one of the patterns, the tree's own included, that do not begin with
a slash. A line with that name does so, with or without a slash at its end; but lines with a slash in
front could as well not be there. -/
theorem isUnlisted_iff_unanchored {tree : FileTree}
    (named : tree.base = [upward] → IsName tree.name) {text : String}
    (told : tree.bytes? ignoreFile = some text.toUTF8.toList) {name : String}
    (plain : IsPlainName name) (directory : tree.HasDirectory name) (patterns : List String)
    (maxSize : Int) :
    ∃ entries, tree.list patterns maxSize = .ok entries ∧
      (IsUnlisted entries name ↔ isExcluded (unanchored
        (patterns ++ ignorePatterns (Text.unifyBreaks text.toList))) name = true) ∧
      ((∃ line ∈ Text.lines (Text.unifyBreaks text.toList), IsBareLine name line) →
        IsUnlisted entries name) ∧
      entries = tree.listWithout (unanchored
        (patterns ++ ignorePatterns (Text.unifyBreaks text.toList))) (maxSize * sizeUnit) := by
  refine ⟨_, list_eq_ok_iff.mpr ⟨_, ignored_of_text told, rfl⟩, ?_⟩
  rw [← listWithout_unanchored named]
  have exactly := isUnlisted_iff named plain.toIsName directory
    (unanchored (patterns ++ ignorePatterns (Text.unifyBreaks text.toList))) (maxSize * sizeUnit)
  refine ⟨exactly, ?_, rfl⟩
  rintro ⟨line, member, bare⟩
  refine exactly.mpr (isExcluded_of_mem plain (List.mem_filter.mpr ⟨?_, ?_⟩))
  · exact List.mem_append_right _ (mem_ignorePatterns_of_isBareLine plain member bare)
  · rw [not_isAnchored plain]
    rfl

theorem named_of_holds {tree : FileTree} {files : Ledger String} (holds : tree.Holds files) :
    tree.base = [upward] → IsName tree.name := by
  rw [holds.base]
  exact nofun

theorem hasDirectory_of_holds {tree : FileTree} {files : Ledger String}
    (normal : ∀ path ∈ files.names, Path.IsNormal path) (holds : tree.Holds files) {name : String}
    (isName : IsName name) (above : name ∈ directoriesAbove files.names) :
    tree.HasDirectory name := by
  have own := Path.names_pathOf_of_isStep (List.forall_mem_singleton.mpr isName.isStep)
  rw [pathOf_singleton] at own
  exact ⟨.directory, _, (mem_placesBelow normal holds).mpr ⟨name, .inr ⟨above, rfl⟩, own⟩, rfl, rfl⟩

/-- Texts in two directories, both of which are named on a line: one with a slash at the end of the
line, one with a slash in front. -/
def twoDirectories : Ledger String := .ofList
  [(ignoreFile, "lib/\n/out\n"), ("lib/a.js", "x"), ("out/b.js", "y")]

theorem holds_twoDirectories : (ofTexts twoDirectories).Holds twoDirectories :=
  holds_ofTexts (by decide +kernel)

theorem isPlainName_lib : IsPlainName "lib" :=
  ⟨⟨by decide, by decide, by decide, by decide⟩, by decide, by decide, by decide⟩

theorem isPlainName_out : IsPlainName "out" :=
  ⟨⟨by decide, by decide, by decide, by decide⟩, by decide, by decide, by decide⟩

theorem isUnlisted_bareLine :
    ∃ entries, (ofTexts twoDirectories).list [] 500 = .ok entries ∧ IsUnlisted entries "lib" := by
  have told := bytes?_ignoreFile holds_twoDirectories
  have directory := hasDirectory_of_holds (by decide +kernel) holds_twoDirectories
    isPlainName_lib.toIsName (by decide +kernel)
  have named := named_of_holds holds_twoDirectories
  obtain ⟨entries, listed, -, bare, -⟩ :=
    isUnlisted_iff_unanchored named told isPlainName_lib directory [] 500
  exact ⟨entries, listed, bare ⟨"lib/".toList, by decide +kernel, .inr rfl⟩⟩

/-- A directory is listed although a line names it with a slash in front. -/
theorem listed_anchoredLine :
    '/' :: "out".toList ∈ Text.lines (Text.unifyBreaks "lib/\n/out\n".toList) ∧
      IsPlainName "out" ∧ (ofTexts twoDirectories).HasDirectory "out" ∧
      ∃ entries, (ofTexts twoDirectories).list [] 500 = .ok entries ∧
        ¬ IsUnlisted entries "out" := by
  have directory := hasDirectory_of_holds (by decide +kernel) holds_twoDirectories
    isPlainName_out.toIsName (by decide +kernel)
  have own := ignored_of_text (bytes?_ignoreFile holds_twoDirectories)
  refine ⟨by decide +kernel, isPlainName_out, directory, _, list_eq_ok_iff.mpr ⟨_, own, rfl⟩, ?_⟩
  rw [isUnlisted_iff (named_of_holds holds_twoDirectories) isPlainName_out.toIsName directory]
  decide +kernel

end CodeBrief.FileTree
