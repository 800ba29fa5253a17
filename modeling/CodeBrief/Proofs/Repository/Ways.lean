/-
**Ways through a tree.**

Where a way leads is told by what lies at the places through which it goes, one step for each name. A
way that leads somewhere leads there still if something is put at a place through which it does not go;
and the place to which it leads can be filled.

* `LeadsTo` — the steps of a way; `leadsTo_of_follow`, `LeadsTo.follow_eq` — they are those that are
  followed.
* `LeadsTo.arrives` — the way leads to a place at which no link lies.
* `LeadsTo.append`, `LeadsTo.follow_prefix` — a way to a directory goes on from there, and each part of
  a way that begins with it leads somewhere.
* `LeadsTo.set` — putting something where nothing is passed through keeps the way.
-/

import CodeBrief.Proofs.Repository.Places

namespace CodeBrief.FileTree

/-- A name that is entered: it is not passed over, it does not lead up, and it is not too long. -/
structure IsEntry (name : String) : Prop where
  named : ¬ (name.isEmpty || name == ".") = true
  onward : ¬ (name == upward) = true
  short : ¬ nameLimit < name.utf8ByteSize

/-- Nothing is there, or something that leads nowhere else. -/
def IsEnd (node : Option Node) : Prop :=
  node ≠ some .directory ∧ ∀ target, node ≠ some (.link target)

/-- The names `rest` lead from the directory `here` to the place `there`, through at most `links`
links. If nothing lies there, it is the last of the names that leads to it. -/
inductive LeadsTo (tree : FileTree) (there : List String) : Nat → List String → List String → Prop
  | here (links : Nat) : LeadsTo tree there links there []
  | skip {links : Nat} {here rest : List String} {name : String} :
      (name.isEmpty || name == ".") = true → LeadsTo tree there links here rest →
      LeadsTo tree there links here (name :: rest)
  | up {links : Nat} {here rest : List String} : LeadsTo tree there links (above here) rest →
      LeadsTo tree there links here (upward :: rest)
  | into {links : Nat} {here rest : List String} {name : String} : IsEntry name →
      tree.node? (tree.enter here name) = some .directory →
      LeadsTo tree there links (tree.enter here name) rest →
      LeadsTo tree there links here (name :: rest)
  | link {links : Nat} {here rest : List String} {name target : String} : IsEntry name →
      tree.node? (tree.enter here name) = some (.link target) →
      LeadsTo tree there links (startOf here target) (targetNames target ++ rest) →
      LeadsTo tree there (links + 1) here (name :: rest)
  | last {links : Nat} {here : List String} {name : String} : IsEntry name →
      IsEnd (tree.node? (tree.enter here name)) → there = tree.enter here name →
      LeadsTo tree there links here [name]

section Steps

variable {tree : FileTree} {links : Nat} {here rest : List String} {name : String}

/-! ### One step -/

theorem follow_nil : tree.follow links here [] = .place here := by
  rw [follow]

theorem follow_skip (passed : (name.isEmpty || name == ".") = true) :
    tree.follow links here (name :: rest) = tree.follow links here rest := by
  rw [follow, if_pos passed]

theorem follow_up : tree.follow links here (upward :: rest) = tree.follow links (above here) rest := by
  rw [follow, if_neg (by decide), if_pos (by decide)]

section Entry

variable (entry : IsEntry name)
include entry

theorem follow_into (directory : tree.node? (tree.enter here name) = some .directory) :
    tree.follow links here (name :: rest) = tree.follow links (tree.enter here name) rest := by
  rw [follow, if_neg entry.named, if_neg entry.onward, if_neg entry.short, directory]

theorem follow_link {target : String}
    (isLink : tree.node? (tree.enter here name) = some (.link target)) :
    tree.follow (links + 1) here (name :: rest) =
      tree.follow links (startOf here target) (targetNames target ++ rest) := by
  rw [follow, if_neg entry.named, if_neg entry.onward, if_neg entry.short, isLink]

theorem follow_absent (missing : tree.node? (tree.enter here name) = none) :
    tree.follow links here [name] = .absent (tree.enter here name) := by
  rw [follow, if_neg entry.named, if_neg entry.onward, if_neg entry.short, missing]
  rfl

theorem follow_last {node : Node} (isEnd : IsEnd (some node))
    (found : tree.node? (tree.enter here name) = some node) :
    tree.follow links here [name] = .place (tree.enter here name) := by
  rw [follow, if_neg entry.named, if_neg entry.onward, if_neg entry.short, found]
  cases node with
  | directory => exact absurd rfl isEnd.1
  | link target => exact absurd rfl (isEnd.2 target)
  | file bytes => rfl
  | special => rfl

end Entry

end Steps

section Ways

variable {tree : FileTree} {there : List String} {links : Nat} {here rest : List String}

/-! ### The whole way -/

/-- **A way that is followed to a place leads there**, whether something lies there or not. -/
theorem leadsTo_of_follow (found : tree.follow links here rest = .place there ∨
    tree.follow links here rest = .absent there) : LeadsTo tree there links here rest := by
  fun_induction follow tree links here rest with
  | case1 links here =>
    obtain ⟨⟨⟩⟩ | ⟨⟨⟩⟩ := found
    exact .here links
  | case2 links here name rest passed ih => exact .skip passed (ih found)
  | case3 links here name rest named up ih =>
    rw [eq_of_beq up]
    exact .up (ih found)
  | case4 => simp at found
  | case5 links here name rest named onward short missing empty =>
    rw [List.isEmpty_iff.mp empty]
    obtain ⟨⟨⟩⟩ | ⟨⟨⟩⟩ := found
    refine .last ⟨named, onward, short⟩ ?_ rfl
    rw [missing]
    exact ⟨nofun, nofun⟩
  | case6 => simp at found
  | case7 links here name rest named onward short directory ih =>
    exact .into ⟨named, onward, short⟩ directory (ih found)
  | case8 => simp at found
  | case9 here name rest named onward short target isLink links ih =>
    exact .link ⟨named, onward, short⟩ isLink (ih found)
  | case10 links here name rest named onward short node noDirectory noLink there empty =>
    rw [List.isEmpty_iff.mp empty]
    obtain ⟨⟨⟩⟩ | ⟨⟨⟩⟩ := found
    refine .last ⟨named, onward, short⟩ ?_ rfl
    rw [there]
    exact ⟨fun same => noDirectory (Option.some.inj same),
      fun target same => noLink target (Option.some.inj same)⟩
  | case11 => simp at found

/-- Where a way ends at nothing, nothing lies. -/
theorem node?_of_absent (absent : tree.follow links here rest = .absent there) :
    tree.node? there = none := by
  fun_induction follow tree links here rest with
  | case2 _ _ _ _ _ ih | case3 _ _ _ _ _ _ ih | case7 _ _ _ _ _ _ _ _ ih
  | case9 _ _ _ _ _ _ _ _ _ ih => exact ih absent
  | case5 _ _ _ _ _ _ _ missing _ =>
    obtain ⟨⟩ := absent
    exact missing
  | case1 | case4 | case6 | case8 | case10 | case11 => simp at absent

namespace LeadsTo

/-- A way to something is followed to it. -/
theorem follow_eq (leads : LeadsTo tree there links here rest) {node : Node}
    (found : tree.node? there = some node) : tree.follow links here rest = .place there := by
  induction leads with
  | here links => exact follow_nil
  | skip passed _ ih => exact (follow_skip passed).trans ih
  | up _ ih => exact follow_up.trans ih
  | into entry directory _ ih => exact (follow_into entry directory).trans ih
  | link entry isLink _ ih => exact (follow_link entry isLink).trans ih
  | last entry isEnd same =>
    subst same
    rw [found] at isEnd
    exact follow_last entry isEnd found

/-! ### Going on -/

/-- **A way to a directory goes on from there.** -/
theorem append (leads : LeadsTo tree there links here rest)
    (directory : tree.node? there = some .directory) :
    ∃ left, ∀ more, tree.follow links here (rest ++ more) = tree.follow left there more := by
  induction leads with
  | here links => exact ⟨links, fun more => rfl⟩
  | skip passed _ ih => exact ih.imp fun left onward more => (follow_skip passed).trans (onward more)
  | up _ ih => exact ih.imp fun left onward more => follow_up.trans (onward more)
  | into entry isDirectory _ ih =>
    exact ih.imp fun left onward more => (follow_into entry isDirectory).trans (onward more)
  | link entry isLink _ ih =>
    refine ih.imp fun left onward more => (follow_link entry isLink).trans ?_
    have further := onward more
    rw [List.append_assoc] at further
    exact further
  | last _ isEnd same =>
    subst same
    exact absurd directory isEnd.1

/-- **Each part of a way that begins with it leads somewhere.** -/
theorem follow_prefix {all names more : List String} (leads : LeadsTo tree there links here all)
    (same : all = names ++ more) (nonempty : more ≠ []) :
    ∃ place, tree.follow links here names = .place place := by
  induction leads generalizing names with
  | here links =>
    exact absurd (List.append_eq_nil_iff.mp same.symm).2 nonempty
  | @skip _ here _ _ passed _ ih =>
    cases names with
    | nil => exact ⟨here, follow_nil⟩
    | cons name names =>
      obtain ⟨rfl, rfl⟩ := List.cons.inj same
      exact (ih rfl).imp fun _ => (follow_skip passed).trans
  | @up _ here _ _ ih =>
    cases names with
    | nil => exact ⟨here, follow_nil⟩
    | cons name names =>
      obtain ⟨rfl, rfl⟩ := List.cons.inj same
      exact (ih rfl).imp fun _ => follow_up.trans
  | @into _ here _ _ entry isDirectory _ ih =>
    cases names with
    | nil => exact ⟨here, follow_nil⟩
    | cons name names =>
      obtain ⟨rfl, rfl⟩ := List.cons.inj same
      exact (ih rfl).imp fun _ => (follow_into entry isDirectory).trans
  | @link _ here _ _ _ entry isLink _ ih =>
    cases names with
    | nil => exact ⟨here, follow_nil⟩
    | cons name names =>
      obtain ⟨rfl, rfl⟩ := List.cons.inj same
      exact (ih (List.append_assoc _ _ _).symm).imp fun _ => (follow_link entry isLink).trans
  | @last _ here _ _ _ _ =>
    cases names with
    | nil => exact ⟨here, follow_nil⟩
    | cons name names =>
      exact absurd (List.append_eq_nil_iff.mp (List.cons.inj same).2.symm).2 nonempty

end LeadsTo

/-! ### The places on a way -/

/-- The names of a way have no slashes. -/
def AreSegments (names : List String) : Prop :=
  ∀ name ∈ names, '/' ∉ name.toList

theorem areSegments_of_pieces {path : String} {names : List String}
    (among : ∀ name ∈ names, ∃ piece ∈ Path.segments path, String.ofList piece = name) :
    AreSegments names := by
  intro name member slash
  obtain ⟨segment, within, rfl⟩ := among name member
  rw [String.toList_ofList] at slash
  have noSlash := Text.not_separates_of_mem_pieces within '/' slash
  simp at noSlash

theorem areSegments_names (path : String) : AreSegments (Path.names path) := by
  refine @areSegments_of_pieces path _ fun name member => ?_
  obtain ⟨segment, within, same⟩ := List.mem_map.mp member
  exact ⟨segment, List.mem_of_mem_filter within, same⟩

theorem areSegments_targetNames (target : String) : AreSegments (targetNames target) :=
  areSegments_of_pieces fun _ member => List.mem_map.mp member

namespace AreSegments

variable {name : String} {names others : List String}

theorem tail (segments : AreSegments (name :: names)) : AreSegments names :=
  fun other member => segments other (List.mem_cons_of_mem name member)

theorem append (segments : AreSegments names) (segments' : AreSegments others) :
    AreSegments (names ++ others) := by
  intro name member
  rcases List.mem_append.mp member with inNames | inOthers
  · exact segments name inNames
  · exact segments' name inOthers

theorem isStep (segments : AreSegments (name :: names)) (entry : IsEntry name) : IsStep name := by
  have named := entry.named
  rw [Bool.or_eq_true, not_or] at named
  refine ⟨?_, ?_, segments name List.mem_cons_self⟩
  · rintro rfl
    exact named.1 rfl
  · rintro rfl
    exact named.2 rfl

end AreSegments

namespace LeadsTo

section Anchored

variable (anchored : tree.IsAnchored) (leads : LeadsTo tree there links here rest)
  (isOpen : tree.IsOpen here) (segments : AreSegments rest)
include anchored leads isOpen segments

/-- **A way leads to a place at which no link lies.** -/
theorem arrives : IsPlace there ∧ ∀ target, tree.node? there ≠ some (.link target) := by
  induction leads with
  | here links =>
    refine ⟨isOpen.isPlace, fun target same => ?_⟩
    rw [isOpen.node?] at same
    cases same
  | skip _ _ ih => exact ih isOpen segments.tail
  | up _ ih => exact ih (isOpen_above isOpen) segments.tail
  | into entry directory _ ih =>
    exact ih (isOpen_enter isOpen (segments.isStep entry) directory) segments.tail
  | @link _ _ _ _ target entry _ _ ih =>
    exact ih (anchored.isOpen_startOf isOpen target)
      ((areSegments_targetNames target).append segments.tail)
  | last entry isEnd same =>
    subst same
    exact ⟨isPlace_enter isOpen.isPlace (segments.isStep entry), isEnd.2⟩

/-- **What is put where the way does not pass through changes nothing about the way**, also if it is
put at its end. -/
theorem set {place : List String} {node : Node} (isPlace : IsPlace place)
    (free : IsEnd (tree.node? place)) (noLink : ∀ target, node ≠ .link target) :
    LeadsTo (tree.set place node) there links here rest := by
  have kept : ∀ {other held}, IsPlace other → tree.node? other = some held → ¬ IsEnd (some held) →
      (tree.set place node).node? other = some held := by
    intro other held isOther found through
    refine (node?_set_of_ne isPlace isOther free.1 ?_).trans found
    rintro rfl
    rw [found] at free
    exact through free
  induction leads with
  | here links => exact .here links
  | skip passed _ ih => exact .skip passed (ih isOpen segments.tail)
  | up _ ih => exact .up (ih (isOpen_above isOpen) segments.tail)
  | @into _ here _ name entry directory _ ih =>
    have isStep := segments.isStep entry
    have there := kept (isPlace_enter isOpen.isPlace isStep) directory fun isEnd => isEnd.1 rfl
    exact .into entry there (ih (isOpen_enter isOpen isStep directory) segments.tail)
  | @link _ here _ name target entry isLink _ ih =>
    have there := kept (isPlace_enter isOpen.isPlace (segments.isStep entry)) isLink
      fun isEnd => isEnd.2 target rfl
    exact .link entry there (ih (anchored.isOpen_startOf isOpen target)
      ((areSegments_targetNames target).append segments.tail))
  | @last links here name entry isEnd same =>
    have isOther : IsPlace (tree.enter here name) :=
      isPlace_enter isOpen.isPlace (segments.isStep entry)
    have now : (tree.set place node).node? (tree.enter here name) = _ :=
      node?_set isPlace isOther free.1
    by_cases isHere : tree.enter here name = place
    · rw [if_pos isHere] at now
      by_cases directory : node = .directory
      · -- A directory at the end of a way is one that is entered.
        subst directory same
        exact .into entry now (.here links)
      · refine .last entry ?_ same
        rw [show (tree.set place node).enter = tree.enter from rfl, now]
        exact ⟨fun isNode => directory (Option.some.inj isNode),
          fun target isNode => noLink target (Option.some.inj isNode)⟩
    · rw [if_neg isHere] at now
      refine .last entry ?_ same
      rw [show (tree.set place node).enter = tree.enter from rfl, now]
      exact isEnd

end Anchored

end LeadsTo

end Ways

/-! ### What is found -/

/-- What is found is found without a name that is too long. -/
theorem resolve_ne_overlong {tree : FileTree} {path : String} {node : Node}
    (found : tree.find? path = some node) : tree.resolve path ≠ .overlong := by
  intro overlong
  rw [find?, resolve?, overlong] at found
  cases found

theorem find?_of_bytes? {tree : FileTree} {path : String} {bytes : List UInt8}
    (found : tree.bytes? path = some bytes) : tree.find? path = some (.file bytes) := by
  unfold bytes? at found
  split at found
  · rename_i _ lies
    rw [lies, Option.some.inj found]
  · cases found

end CodeBrief.FileTree
