/-
**Files that a query names.**

A query names a file by a word that is its path. The files that it is taken to name are read off by
one pattern: two runs of ASCII word characters with a dot between them. The pattern cannot get past
a blank, so that it reads a query word by word (`targets_classify`), and it takes two runs at a
time. So a word of two runs is read as a whole, and a word of more runs never is.

* `IsDotted` — runs of ASCII word characters with single dots between them, at least one dot.
* `mem_targets_iff` — a dotted word of a query is one of the files that it names just if it has two
  runs.
* `named_score` — the score of a file whose path is a dotted word of the query.
-/

import CodeBrief.Proofs.Pattern.Matches
import CodeBrief.Proofs.Pattern.Segments
import CodeBrief.Proofs.Relevance.Entries
import CodeBrief.Proofs.Text.Characters

namespace CodeBrief

/-! ### What a query is taken to name -/

namespace Intent

/-- The runs of a text between its dots. -/
def runs (text : String) : List (List Char) :=
  Text.pieces (· == '.') text.toList

/-- A text of runs of ASCII word characters with single dots between them, at least one dot. -/
def IsDotted (text : String) : Prop :=
  2 ≤ (runs text).length ∧ ∀ run ∈ runs text, run ≠ [] ∧ ∀ c ∈ run, Text.isAsciiWord c = true

instance (text : String) : Decidable (IsDotted text) :=
  decidable_of_iff (2 ≤ (runs text).length ∧
    (runs text).all (fun run => !run.isEmpty && run.all Text.isAsciiWord) = true)
    (by simp [IsDotted])

/-- A character of a dotted text. -/
theorem IsDotted.char {text : String} (dotted : IsDotted text) {c : Char}
    (member : c ∈ text.toList) : c = '.' ∨ Text.isAsciiWord c = true := by
  rcases @Text.exists_piece_of_mem (· == '.') _ _ member with dot | ⟨run, isRun, within⟩
  · exact Or.inl (beq_iff_eq.mp dot)
  · exact Or.inr ((dotted.2 run isRun).2 c within)

theorem runs_two {left right : List Char} (leftWord : ∀ c ∈ left, Text.isAsciiWord c = true)
    (rightWord : ∀ c ∈ right, Text.isAsciiWord c = true) :
    runs (String.ofList (left ++ '.' :: right)) = [left, right] := by
  have free : ∀ word : List Char, (∀ c ∈ word, Text.isAsciiWord c = true) →
      ∀ c ∈ word, (c == '.') = false := by
    intro word isWord c member
    refine beq_eq_false_iff_ne.mpr ?_
    rintro rfl
    exact absurd (isWord _ member) (by decide)
  have parts : Text.pieces (· == '.') (left ++ '.' :: right) =
      Text.pieces (· == '.') left ++ Text.pieces (· == '.') right := by
    apply Text.pieces_append
    rfl
  unfold runs
  rw [String.toList_ofList, parts, Text.pieces_of_free (free left leftWord),
    Text.pieces_of_free (free right rightWord)]
  rfl

/-- The pattern takes two runs. -/
theorem gives_target : Pattern.Gives target fun text => (runs text).length = 2 := by
  refine (Pattern.gives_runOf 1 _).bind_of fun left ⟨_, leftWord⟩ => ?_
  refine Pattern.Gives.bind fun _ => ?_
  refine (Pattern.gives_runOf 1 _).bind_of fun right ⟨_, rightWord⟩ => ?_
  exact Pattern.gives_pure (by rw [runs_two leftWord rightWord]; rfl)

theorem stopsAt_target {c : Char} (blank : Text.isBlank c = true) :
    Pattern.StopsAt target c := by
  have notWord := Text.not_isAsciiWord_of_isBlank blank
  have notDot : c ∉ ".".toList := by
    intro member
    rw [List.mem_singleton.mp member] at blank
    exact absurd blank (by decide)
  exact (Pattern.stopsAt_runOf 1 notWord).bind fun _ =>
    (Pattern.stopsAt_literal notDot).bind fun _ =>
      (Pattern.stopsAt_runOf 1 notWord).bind fun _ => Pattern.stopsAt_pure _

/-- **A query is read word by word.** -/
theorem targets_classify (query : String) :
    (classify query).targets = (Text.words query.toList).flatMap (Pattern.found target) := by
  show Pattern.found target query.toList = _
  rw [Pattern.found_eq_flatMap_pieces (fun _ => stopsAt_target) rfl]
  unfold Text.words
  induction Text.pieces Text.isBlank query.toList with
  | nil => rfl
  | cons piece rest ih =>
    rw [List.flatMap_cons, ih, List.filter_cons]
    cases piece with
    | nil => rfl
    | cons c piece => rfl

/-- A word of two runs is read as a whole. -/
theorem found_target_of_two {text : String} (dotted : IsDotted text)
    (two : (runs text).length = 2) : Pattern.found target text.toList = [text] := by
  obtain ⟨left, right, isRuns⟩ := List.length_eq_two.mp two
  obtain ⟨leftNonempty, leftWord⟩ := dotted.2 left (by simp [isRuns])
  obtain ⟨rightNonempty, rightWord⟩ := dotted.2 right (by simp [isRuns])
  have together := Text.intercalate_pieces '.' text.toList
  rw [show Text.pieces (· == '.') text.toList = [left, right] from isRuns] at together
  have whole : text.toList = left ++ '.' :: right := by simpa using together.symm
  have taken : text.toList.takeWhile Text.isAsciiWord = left := by
    rw [whole, List.takeWhile_append_of_pos leftWord,
      List.takeWhile_cons_of_neg (by decide), List.append_nil]
  have rest : text.toList.dropWhile Text.isAsciiWord = '.' :: right := by
    rw [whole, List.dropWhile_append_of_pos leftWord, List.dropWhile_cons_of_neg (by decide)]
  have read : target text.toList = some (text, []) := by
    refine Pattern.bind_eq_some.mpr ⟨left, '.' :: right, Pattern.runOf_eq_some.mpr
      ⟨?_, taken.symm, rest.symm⟩, ?_⟩
    · rw [taken]
      exact List.length_pos_of_ne_nil leftNonempty
    refine Pattern.bind_eq_some.mpr ⟨(), right, Pattern.literal_eq_some.mpr rfl, ?_⟩
    refine Pattern.bind_eq_some.mpr ⟨right, [], Pattern.runOf_eq_some.mpr ⟨?_, ?_, ?_⟩, ?_⟩
    · rw [List.takeWhile_eq_self_iff.mpr rightWord]
      exact List.length_pos_of_ne_nil rightNonempty
    · exact (List.takeWhile_eq_self_iff.mpr rightWord).symm
    · exact (List.dropWhile_eq_nil_iff.mpr rightWord).symm
    · rw [← whole, String.ofList_toList]
      rfl
  refine Pattern.found_eq_singleton ?_ read
  rw [whole]
  simp

/-- **A dotted word of a query is taken as the name of a file just if it has two runs.** -/
theorem mem_targets_iff {text query : String} (dotted : IsDotted text)
    (named : text.toList ∈ Text.words query.toList) :
    text ∈ (classify query).targets ↔ (runs text).length = 2 := by
  constructor
  · exact Pattern.gives_of_mem_found gives_target
  · intro two
    rw [targets_classify, List.mem_flatMap]
    refine ⟨text.toList, named, ?_⟩
    rw [found_target_of_two dotted two]
    exact List.mem_singleton_self text

end Intent

/-! ### What it scores to be named -/

namespace Relevance

open Intent (IsDotted runs)

/-- The paths that a query can name by a word are plain. -/
theorem isPlain_of_isDotted {path : String} (dotted : IsDotted path) : IsPlain path := by
  have noColon : ':' ∉ path.toList := by
    intro member
    rcases dotted.char member with dot | isWord
    · exact absurd dot (by decide)
    · exact absurd isWord (by decide)
  exact ⟨fun begins => noColon (begins.subset (by decide)),
    fun begins => noColon (begins.subset (by decide))⟩

theorem get?_withMembers {β : Type} {tag name : String} (words : List String)
    (pathOf nameOf : β → String) (apart : ∀ key, name ≠ tag ++ key) (members : List (String × β))
    (sofar : Ledger Int) :
    (withMembers tag words pathOf nameOf members sofar).get? name = sofar.get? name := by
  induction members generalizing sofar with
  | nil => rfl
  | cons member rest ih =>
    refine (ih _).trans ?_
    rw [Ledger.get?_put, if_neg (apart member.1)]

/-- A file with a plain path has its score under its path, whatever the other paths are. -/
theorem get?_scores_path {files : Ledger String} {path content : String} (plain : IsPlain path)
    (held : files.get? path = some content) (graph : ImportGraph) (recent : List String)
    (query : String) (intent : Intent) :
    (scores (Index.build files) graph recent query intent).get? path =
      some (fileScore graph recent (queryWords query) intent path content : Int) := by
  rw [scores_eq_withMembers, get?_withMembers _ _ _ plain.ne_classKey,
    get?_withMembers _ _ _ plain.ne_functionKey, ofFiles, Ledger.get?_mapValues]
  exact congrArg (Option.map _) held

/-- What the names of files in a query add to a score. -/
theorem fileScore_targets (graph : ImportGraph) (recent words : List String) (intent : Intent)
    (path content : String) :
    fileScore graph recent words intent path content =
      bonusIf (intent.targets.contains path) targetBonus +
        fileScore graph recent words { intent with targets := [] } path content := by
  simp only [fileScore, bonusIf, List.contains_nil, Bool.false_eq_true, if_false, Nat.zero_add,
    Nat.add_assoc]

/-- **A file that a query names scores for it.** Let the path of a file be a dotted word of a query.
If it has two runs, then it is one of the files that the query is taken to name, and its score is a
hundred more than it would be if none were named. If it has more runs, it is none of these files, and
nothing is added. -/
theorem named_score {files : Ledger String} {path content : String}
    (held : files.get? path = some content) (dotted : IsDotted path) {query : String}
    (named : path.toList ∈ Text.words query.toList) (graph : ImportGraph)
    (recent : List String) :
    let intent := Intent.classify query
    let unnamed := fileScore graph recent (queryWords query) { intent with targets := [] } path
      content
    let score := (scores (Index.build files) graph recent query intent).get? path
    ((runs path).length = 2 → path ∈ intent.targets ∧ score = some (100 + unnamed : Int)) ∧
      ((runs path).length ≠ 2 → path ∉ intent.targets ∧ score = some (unnamed : Int)) := by
  intro intent unnamed score
  have scored : score = some (fileScore graph recent (queryWords query) intent path content : Int) :=
    get?_scores_path (isPlain_of_isDotted dotted) held graph recent query intent
  have isTarget : path ∈ intent.targets ↔ (runs path).length = 2 :=
    Intent.mem_targets_iff dotted named
  rw [fileScore_targets] at scored
  constructor
  · intro two
    have target := isTarget.mpr two
    refine ⟨target, ?_⟩
    rw [scored, List.contains_iff_mem.mpr target]
    rfl
  · intro more
    have noTarget : path ∉ intent.targets := fun target => more (isTarget.mp target)
    refine ⟨noTarget, ?_⟩
    have notContained : intent.targets.contains path = false := by simpa using noTarget
    rw [scored, notContained]
    simp [bonusIf, unnamed]

/-- A file of the root directory that is named in the middle of a query. -/
theorem named_score_authScript :
    let files : Ledger String := .ofList [("auth.js", "login();"), ("other.js", "auth.js")]
    let query := "fix\tauth.js now"
    let intent := Intent.classify query
    files.get? "auth.js" = some "login();" ∧ IsDotted "auth.js" ∧
      "auth.js".toList ∈ Text.words query.toList ∧ "auth.js" ∈ intent.targets ∧
      (scores (Index.build files) {} [] query intent).get? "auth.js" = some 100 := by
  intro files query intent
  have held : files.get? "auth.js" = some "login();" := by decide +kernel
  have dotted : IsDotted "auth.js" := by decide +kernel
  have named : "auth.js".toList ∈ Text.words query.toList := by decide +kernel
  obtain ⟨target, score⟩ := (named_score held dotted named {} []).1 (by decide +kernel)
  refine ⟨held, dotted, named, target, ?_⟩
  rw [score]
  decide +kernel

/-- A word with two dots names no file, although it is the path of one. -/
theorem not_named_twoDots :
    let files : Ledger String := .ofList [("user.service.js", "x")]
    let query := "open user.service.js"
    let intent := Intent.classify query
    files.get? "user.service.js" = some "x" ∧ IsDotted "user.service.js" ∧
      "user.service.js".toList ∈ Text.words query.toList ∧
      ¬ "user.service.js" ∈ intent.targets ∧
      (scores (Index.build files) {} [] query intent).get? "user.service.js" = some 0 := by
  decide +kernel

end Relevance

end CodeBrief
