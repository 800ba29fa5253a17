/-
**What readers read of a text that has been put together.**

A run of characters is read as a whole if what follows it does not go on with such a character
(`EndsRun`). From this it follows what readers take of a text of known pieces, and readers one after
another take one piece after another (`bind_of_read`).

* `run_append`, `runOf_append` — runs.
* `literal_append`, `literal_of_not_mem`, `blanks_append`, `someBlanks_append`, `word_append`,
  `enclosed_append`, `quotedText_append` — the readers that patterns are built from;
  `IsWord.word_append`, `IsWord.endsBlanks` — the same for words.
* `orElse_of_read`, `orElse_of_none` — one reader or another one.
-/

import CodeBrief.Proofs.Pattern.Values
import CodeBrief.Proofs.Pattern.Replacement
import CodeBrief.Proofs.Text.Characters

namespace CodeBrief.Pattern

/-! ### Readers put together -/

section Composition

variable {α β : Type} {text rest : List Char}

theorem bind_of_read {first : Reader α} {second : α → Reader β} {value : α}
    (read : first text = some (value, rest)) : (first >>= second) text = second value rest := by
  show (first text).bind _ = _
  rw [read]
  rfl

theorem bind_of_none {first : Reader α} {second : α → Reader β} (unread : first text = none) :
    (first >>= second) text = none := by
  show (first text).bind _ = _
  rw [unread]
  rfl

theorem orElse_of_read {first second : Reader α} {value : α}
    (read : first text = some (value, rest)) : (first <|> second) text = some (value, rest) := by
  show (first text).orElse _ = _
  rw [read]
  rfl

theorem orElse_of_none {first second : Reader α} (unread : first text = none) :
    (first <|> second) text = second text := by
  show (first text).orElse _ = _
  rw [unread]
  rfl

end Composition

/-! ### Runs -/

/-- A run of characters that satisfy `test` ends before `rest`. -/
def EndsRun (test : Char → Bool) (rest : List Char) : Prop :=
  ∀ c ∈ rest.head?, test c = false

section Runs

variable {test : Char → Bool} {piece rest : List Char}

theorem endsRun_cons {c : Char} (fails : test c = false) (rest : List Char) :
    EndsRun test (c :: rest) := by
  intro d member
  rw [List.head?_cons, Option.mem_some_iff] at member
  exact member ▸ fails

/-- A text that begins with a character of some kind ends a run of another kind. -/
theorem endsRun_of_forall {kind : Char → Bool} (apart : ∀ c, kind c = true → test c = false)
    (nonempty : piece ≠ []) (ofKind : ∀ c ∈ piece, kind c = true) (rest : List Char) :
    EndsRun test (piece ++ rest) := by
  obtain ⟨c, piece, rfl⟩ := List.exists_cons_of_ne_nil nonempty
  exact endsRun_cons (apart c (ofKind c List.mem_cons_self)) _

theorem takeWhile_of_endsRun (ends : EndsRun test rest) : rest.takeWhile test = [] := by
  cases rest with
  | nil => rfl
  | cons c rest => exact List.takeWhile_cons_of_neg (by simp [ends c rfl])

theorem dropWhile_of_endsRun (ends : EndsRun test rest) : rest.dropWhile test = rest := by
  cases rest with
  | nil => rfl
  | cons c rest => exact List.dropWhile_cons_of_neg (by simp [ends c rfl])

variable (all : ∀ c ∈ piece, test c = true) (ends : EndsRun test rest)
include all ends

theorem takeWhile_append_of_endsRun : (piece ++ rest).takeWhile test = piece := by
  rw [List.takeWhile_append_of_pos all, takeWhile_of_endsRun ends, List.append_nil]

theorem dropWhile_append_of_endsRun : (piece ++ rest).dropWhile test = rest := by
  rw [List.dropWhile_append_of_pos all, dropWhile_of_endsRun ends]

theorem run_append : run test (piece ++ rest) = some (piece, rest) := by
  rw [run, takeWhile_append_of_endsRun all ends, dropWhile_append_of_endsRun all ends]

theorem runOf_append {least : Nat} (long : least ≤ piece.length) :
    runOf least test (piece ++ rest) = some (piece, rest) := by
  rw [runOf, takeWhile_append_of_endsRun all ends, dropWhile_append_of_endsRun all ends]
  exact if_neg (Nat.not_lt.mpr long)

end Runs

theorem runOf_of_endsRun {test : Char → Bool} {rest : List Char} (ends : EndsRun test rest) :
    runOf 1 test rest = none := by
  rw [runOf, takeWhile_of_endsRun ends]
  rfl

/-! ### The readers of patterns -/

section Readers

variable {rest : List Char}

theorem literal_append (expected : String) (rest : List Char) :
    literal expected (expected.toList ++ rest) = some ((), rest) := by
  have dropped : dropPrefix? expected.toList (expected.toList ++ rest) = some rest :=
    dropPrefix?_eq_some.mpr rfl
  rw [literal, dropped]
  rfl

theorem literal_of_not_mem {expected : String} (nonempty : expected.toList ≠ []) {c : Char}
    (absent : c ∉ expected.toList) (rest : List Char) : literal expected (c :: rest) = none := by
  obtain ⟨first, others, spelled⟩ := List.exists_cons_of_ne_nil nonempty
  have other : c ≠ first := by
    rintro rfl
    exact absent (spelled ▸ List.mem_cons_self)
  rw [literal, spelled, dropPrefix?, if_neg other]
  rfl

theorem blanks_append {gap : List Char} (blank : ∀ c ∈ gap, Text.isBlank c = true)
    (ends : EndsRun Text.isBlank rest) : blanks (gap ++ rest) = some ((), rest) :=
  bind_of_read (run_append blank ends)

theorem blanks_of_endsRun (ends : EndsRun Text.isBlank rest) : blanks rest = some ((), rest) :=
  blanks_append (List.forall_mem_nil _) ends

theorem someBlanks_append {gap : List Char} (nonempty : gap ≠ [])
    (blank : ∀ c ∈ gap, Text.isBlank c = true) (ends : EndsRun Text.isBlank rest) :
    someBlanks (gap ++ rest) = some ((), rest) :=
  bind_of_read (runOf_append blank ends (List.length_pos_of_ne_nil nonempty))

/-- The gap that is one space. -/
theorem blanks_space (ends : EndsRun Text.isBlank rest) : blanks (' ' :: rest) = some ((), rest) :=
  blanks_append (List.forall_mem_singleton.mpr (by decide)) ends

theorem someBlanks_space (ends : EndsRun Text.isBlank rest) :
    someBlanks (' ' :: rest) = some ((), rest) :=
  someBlanks_append (List.cons_ne_nil ' ' []) (List.forall_mem_singleton.mpr (by decide)) ends

theorem someBlanks_of_endsRun (ends : EndsRun Text.isBlank rest) : someBlanks rest = none :=
  bind_of_none (runOf_of_endsRun ends)

theorem word_append {letters : List Char} (nonempty : letters ≠ [])
    (areWord : ∀ c ∈ letters, Text.isWord c = true) (ends : EndsRun Text.isWord rest) :
    word (letters ++ rest) = some (String.ofList letters, rest) :=
  bind_of_read (runOf_append areWord ends (List.length_pos_of_ne_nil nonempty))

theorem IsWord.word_append {name : String} (isWord : IsWord name)
    (ends : EndsRun Text.isWord rest) : word (name.toList ++ rest) = some (name, rest) := by
  rw [Pattern.word_append isWord.1 isWord.2 ends, String.ofList_toList]

theorem word_of_endsRun (ends : EndsRun Text.isWord rest) : word rest = none :=
  bind_of_none (runOf_of_endsRun ends)

/-- A word ends a run of characters of another kind, such as blanks. -/
theorem IsWord.endsRun {name : String} (isWord : IsWord name) {test : Char → Bool}
    (apart : ∀ c, Text.isWord c = true → test c = false) (rest : List Char) :
    EndsRun test (name.toList ++ rest) :=
  endsRun_of_forall apart isWord.1 isWord.2 rest

theorem IsWord.endsBlanks {name : String} (isWord : IsWord name) (rest : List Char) :
    EndsRun Text.isBlank (name.toList ++ rest) :=
  isWord.endsRun (fun _ => Text.isBlank_of_isWord) rest

theorem IsWord.not_mem {name : String} (isWord : IsWord name) {mark : Char}
    (notWord : Text.isWord mark = false) : mark ∉ name.toList := by
  intro member
  rw [isWord.2 mark member] at notWord
  cases notWord

/-- No word begins with a character that stands in none. -/
theorem IsWord.endsChar {name : String} (isWord : IsWord name) {mark : Char}
    (notWord : Text.isWord mark = false) (rest : List Char) :
    EndsRun (· == mark) (name.toList ++ rest) := by
  refine isWord.endsRun (fun c inWord => beq_eq_false_iff_ne.mpr ?_) rest
  rintro rfl
  rw [notWord] at inWord
  cases inWord

theorem charWhere_cons {test : Char → Bool} {c : Char} (passes : test c = true)
    (rest : List Char) : charWhere test (c :: rest) = some (c, rest) :=
  if_pos passes

theorem charWhere_of_endsRun {test : Char → Bool} (ends : EndsRun test rest) :
    charWhere test rest = none := by
  cases rest with
  | nil => rfl
  | cons c rest => exact if_neg (by simp [ends c rfl])

theorem enclosed_append {inner : List Char} (opening : Char) {closing : Char}
    (free : closing ∉ inner) (rest : List Char) :
    enclosed opening closing (opening :: (inner ++ closing :: rest)) = some (inner, rest) := by
  have others : ∀ c ∈ inner, (c != closing) = true := by
    intro c member
    rw [bne_iff_ne]
    rintro rfl
    exact free member
  have ends : EndsRun (· != closing) (closing :: rest) := endsRun_cons (by simp) rest
  have same : ∀ (c : Char) (text : List Char),
      charWhere (· == c) (c :: text) = some (c, text) := by
    intro c text
    exact charWhere_cons (beq_self_eq_true c) text
  refine (bind_of_read (same opening _)).trans ?_
  refine (bind_of_read (run_append others ends)).trans ?_
  exact bind_of_read (same closing rest)

theorem enclosed_of_endsRun {opening closing : Char} (ends : EndsRun (· == opening) rest) :
    enclosed opening closing rest = none :=
  bind_of_none (charWhere_of_endsRun ends)

theorem quotedText_append {opening closing : Char} (opens : isQuote opening = true)
    (closes : isQuote closing = true) {inner : String} (nonempty : inner.toList ≠ [])
    (free : ∀ c ∈ inner.toList, isQuote c = false) (rest : List Char) :
    quotedText (opening :: (inner.toList ++ closing :: rest)) = some (inner, rest) := by
  have others : ∀ c ∈ inner.toList, (!isQuote c) = true := by
    intro c member
    rw [free c member]
    rfl
  have ends : EndsRun (!isQuote ·) (closing :: rest) := endsRun_cons (by simp [closes]) rest
  refine (bind_of_read (charWhere_cons opens _)).trans ?_
  refine (bind_of_read (runOf_append others ends (List.length_pos_of_ne_nil nonempty))).trans ?_
  refine (bind_of_read (charWhere_cons closes rest)).trans ?_
  rw [String.ofList_toList]
  rfl

end Readers

end CodeBrief.Pattern
