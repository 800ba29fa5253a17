/-
**Reading back the functions that have been written.**

Functions are written one after another, each as the word `function`, its name, its parameters and
its body, and a line feed. Of such a text the three passes find these functions, in their order, and
nothing else.

* `FunctionFind.IsPlain` — a function that can be told from the text around it.
* `writtenFunctions` — functions as text.
* `declared_writtenFunctions` — the first pass finds the functions.
* `found_arrowBinding_of_isArrowFree` — the second pass finds nothing, as no arrow stands there.
* `methodNames_writtenFunctions` — the third pass comes to each function at its name, and finds the
  word `function` in front of it.
* `functions_writtenFunctions` — the three passes together.

Both passes that come to a function take its text up to the brace of the body. In what is left, up
to the next function, there is no opening parenthesis, and the brace at its end stands between a
word and the next one; so nothing is matched there.
-/

import CodeBrief.Proofs.Pattern.Passing
import CodeBrief.Proofs.Script.Block
import CodeBrief.Proofs.Script.Declarations
import CodeBrief.Proofs.Script.Parameters

namespace CodeBrief.Script

open Pattern

/-- A function that can be told from the text around it: its name is a word, its parameters can be
told from each other, and its body is a block without calls and arrows. -/
structure FunctionFind.IsPlain (find : FunctionFind) : Prop where
  /-- The name is a word. -/
  name : IsWord find.name
  /-- The parameters can be told from each other. -/
  params : ∀ param ∈ find.params, IsParameter param
  /-- The body is a block. -/
  body : IsBlock find.body.toList
  /-- Nothing is called in the body. -/
  noCall : '(' ∉ find.body.toList
  /-- No arrow stands in the body. -/
  noArrow : IsArrowFree find.body.toList

instance : DecidablePred FunctionFind.IsPlain := fun find =>
  decidable_of_iff (IsWord find.name ∧ (∀ param ∈ find.params, IsParameter param) ∧
    IsBlock find.body.toList ∧ '(' ∉ find.body.toList ∧ IsArrowFree find.body.toList)
  ⟨fun ⟨name, params, body, noCall, noArrow⟩ => ⟨name, params, body, noCall, noArrow⟩,
    fun ⟨name, params, body, noCall, noArrow⟩ => ⟨name, params, body, noCall, noArrow⟩⟩

/-- A function as a line of text, or as several if there are line feeds in it. -/
def FunctionFind.written (find : FunctionFind) : List Char :=
  "function ".toList ++ find.name.toList ++ "(".toList ++ Text.commaText find.params ++
    ") ".toList ++ find.body.toList ++ "\n".toList

/-- Functions one after another. -/
def writtenFunctions (finds : List FunctionFind) : List Char :=
  finds.flatMap FunctionFind.written

/-- The text of a function in front of another text, character by character where the passes look
at single ones. -/
theorem FunctionFind.written_append (find : FunctionFind) (rest : List Char) :
    find.written ++ rest = "function".toList ++ ' ' :: (find.name.toList ++
      '(' :: (Text.commaText find.params ++ ')' :: ' ' :: (find.body.toList ++ '\n' :: rest))) := by
  have keyword : "function ".toList = "function".toList ++ [' '] := rfl
  have opening : "(".toList = ['('] := rfl
  have closing : ") ".toList = [')', ' '] := rfl
  have lineFeed : "\n".toList = ['\n'] := rfl
  unfold FunctionFind.written
  rw [keyword, opening, closing, lineFeed]
  simp only [List.append_assoc, List.cons_append, List.nil_append]

/-! ### No arrows -/

theorem FunctionFind.IsPlain.isArrowFree_append {find : FunctionFind} (plain : find.IsPlain)
    {rest : List Char} (free : IsArrowFree rest) : IsArrowFree (find.written ++ rest) := by
  have name : '=' ∉ find.name.toList := plain.name.not_mem (by decide)
  have keyword : '=' ∉ "function".toList := by decide
  have line : IsArrowFree ('\n' :: rest) := free.cons (by decide)
  have body : IsArrowFree (')' :: ' ' :: (find.body.toList ++ '\n' :: rest)) :=
    ((plain.noArrow.append_cons (by decide) line).cons (by decide)).cons (by decide)
  have params : IsArrowFree ('(' :: (Text.commaText find.params ++
      ')' :: ' ' :: (find.body.toList ++ '\n' :: rest))) :=
    ((isArrowFree_commaText plain.params).append_cons (by decide) body).cons (by decide)
  rw [find.written_append]
  exact ((params.append_of_not_mem name).cons (by decide)).append_of_not_mem keyword

/-- **What the second pass takes has an arrow at its end.** -/
theorem takes_arrowBinding : Takes arrowBinding fun taken => "=>".toList <:+ taken := by
  have sign : Takes (literal "=>") fun taken => "=>".toList <:+ taken :=
    (takes_literal "=>").mono fun taken same => same ▸ List.suffix_rfl
  have params : Takes ((do let _ ← enclosed '(' ')') <|> (do let _ ← word)) fun _ => True :=
    ((takes_enclosed '(' ')').bind_pure fun _ => ()).orElse (takes_word.bind_pure fun _ => ())
  have isArrow : Takes arrow fun taken => "=>".toList <:+ taken :=
    params.bind_ends fun _ => takes_blanks.bind_ends fun _ => sign
  have async : Takes (do literal "async"; someBlanks; arrow) fun taken => "=>".toList <:+ taken :=
    (takes_any_literal _).bind_ends fun _ => takes_someBlanks.bind_ends fun _ => isArrow
  refine (takes_any_oneOf _).bind_ends fun _ => takes_someBlanks.bind_ends fun _ => ?_
  refine takes_word.bind_ends fun name => takes_blanks.bind_ends fun _ => ?_
  refine (takes_any_literal _).bind_ends fun _ => takes_blanks.bind_ends fun _ => ?_
  exact (async.orElse isArrow).bind_pure fun _ => name

/-- No arrow functions are found in a text in which no arrow stands. -/
theorem found_arrowBinding_of_isArrowFree {text : List Char} (free : IsArrowFree text) :
    found arrowBinding text = [] := by
  have passes : Passes arrowBinding text [] := by
    intro back _ suffix
    rw [List.append_nil]
    cases read : arrowBinding back with
    | none => rfl
    | some result =>
      obtain ⟨value, after⟩ := result
      obtain ⟨taken, rfl, ends⟩ := takes_arrowBinding _ _ _ read
      have inside : taken <:+: text := (List.prefix_append taken after).isInfix.trans suffix.isInfix
      exact absurd (ends.isInfix.trans inside) free
  have nothing := found_passed passes
  rw [List.append_nil] at nothing
  exact nothing

theorem isArrowFree_writtenFunctions {finds : List FunctionFind}
    (plain : ∀ find ∈ finds, find.IsPlain) : IsArrowFree (writtenFunctions finds) := by
  induction finds with
  | nil => exact isArrowFree_nil
  | cons find finds ih =>
    rw [List.forall_mem_cons] at plain
    exact plain.1.isArrowFree_append (ih plain.2)

/-! ### The parameter list and the brace behind it -/

section ParameterList

variable {α : Type} (value : List Char → α)

/-- What both passes read behind a name: a parameter list and a brace. -/
def parameterList : Reader α := do
  blanks
  let inner ← enclosed '(' ')'
  blanks
  literal "\x7b"
  return value inner

theorem parameterList_append {params : List Char} (free : ')' ∉ params) (rest : List Char) :
    parameterList value ('(' :: (params ++ ')' :: ' ' :: '{' :: rest)) =
      some (value params, rest) := by
  have opening : EndsRun Text.isBlank ('(' :: (params ++ ')' :: ' ' :: '{' :: rest)) :=
    endsRun_cons (by decide) _
  have brace : EndsRun Text.isBlank ('{' :: rest) := endsRun_cons (by decide) _
  refine (bind_of_read (blanks_of_endsRun opening)).trans ?_
  refine (bind_of_read (enclosed_append '(' free _)).trans ?_
  refine (bind_of_read (blanks_space brace)).trans ?_
  exact bind_of_read (literal_append "\x7b" rest)

/-- A character that can stand before an opening parenthesis. -/
def IsLead (c : Char) : Prop :=
  Text.isWord c = true ∨ Text.isBlank c = true

instance (c : Char) : Decidable (IsLead c) :=
  inferInstanceAs (Decidable (_ ∨ _))

theorem meets_parameterList : Meets (parameterList value) '(' IsLead := by
  have behind (inner : List Char) :
      Takes (do blanks; literal "\x7b"; return value inner : Reader α) fun _ => True :=
    takes_blanks.bind_any fun _ => (takes_any_literal _).bind_any fun _ => takes_any_pure _
  have gap : Takes blanks fun taken => ∀ c ∈ taken, IsLead c :=
    takes_blanks_all.mono fun _ blank c member => .inr (blank c member)
  exact Meets.of_lead gap fun _ => (meets_enclosed '(' ')' IsLead).bind behind

end ParameterList

theorem isWord_function : IsWord "function" := by decide

theorem takes_word_lead : Takes word fun taken => ∀ c ∈ taken, IsLead c :=
  takes_word_all.mono fun _ inWord c member => .inl (inWord c member)

theorem meets_declaration : Meets declaration '(' IsLead := by
  have keyword : ∀ c ∈ "function".toList, IsLead c :=
    fun c member => .inl (isWord_function.2 c member)
  have gap : Takes someBlanks fun taken => ∀ c ∈ taken, IsLead c :=
    takes_someBlanks_all.mono fun _ blank c member => .inr (blank c member)
  refine Meets.of_lead ((takes_literal _).mono fun taken same => same ▸ keyword) fun _ => ?_
  refine Meets.of_lead gap fun _ => ?_
  exact Meets.of_lead takes_word_lead fun name => meets_parameterList fun inner => (name, inner)

theorem meets_bareMethod : Meets bareMethod '(' IsLead :=
  Meets.of_lead takes_word_lead fun name => meets_parameterList fun _ => name

/-! ### The parts of a written function -/

/-- The text of a function from its name up to the brace of its body. -/
def FunctionFind.signature (find : FunctionFind) : List Char :=
  find.name.toList ++ '(' :: (Text.commaText find.params ++ [')', ' ', '{'])

/-- A written function falls into the word `function`, its signature, and the text `inner` up to the
end of its body. -/
structure FunctionFind.FallsInto (find : FunctionFind) (inner : List Char) : Prop where
  /-- These are the parts. -/
  whole : ∀ rest, find.written ++ rest =
    "function ".toList ++ (find.signature ++ (inner ++ ['\n'] ++ rest))
  /-- The last part has no opening parenthesis in it. -/
  noCall : '(' ∉ inner
  /-- It ends with the brace that closes the body. -/
  closed : ['}'] <:+ inner
  /-- With the brace in front of it, it is the body. -/
  block : ∀ rest, blockAt (fromBrace (inner ++ rest)) = find.body.toList

variable {find : FunctionFind}

theorem FunctionFind.IsPlain.fallsInto (plain : find.IsPlain) : ∃ inner, find.FallsInto inner := by
  obtain ⟨inner, body, closed⟩ := plain.body.exists_inner
  refine ⟨inner, ⟨fun rest => ?_, fun member => ?_, closed, fun rest => ?_⟩⟩
  · have keyword : "function ".toList = "function".toList ++ [' '] := rfl
    rw [find.written_append, body, keyword, FunctionFind.signature, fromBrace]
    simp only [List.append_assoc, List.cons_append, List.nil_append]
  · exact plain.noCall (body ▸ List.mem_cons_of_mem '{' member)
  · have block := plain.body.blockAt_append rest
    rw [body] at block ⊢
    exact block

theorem FunctionFind.FallsInto.passes {α : Type} {inner rest : List Char} {reader : Reader α}
    (parts : find.FallsInto inner) (meets : Meets reader '(' IsLead)
    (atLineFeed : reader ('\n' :: rest) = none) : Passes reader (inner ++ ['\n']) rest := by
  refine (passes_of_barrier meets parts.noCall parts.closed (by decide) _).append ?_
  exact passes_cons.mpr ⟨atLineFeed, passes_nil reader rest⟩

/-- The name in the signature is read, up to the parameter list. -/
theorem FunctionFind.IsPlain.word_signature (plain : find.IsPlain) (rest : List Char) :
    word (find.signature ++ rest) =
      some (find.name, '(' :: (Text.commaText find.params ++ ')' :: ' ' :: '{' :: rest)) := by
  unfold FunctionFind.signature
  simp only [List.append_assoc, List.cons_append, List.nil_append]
  exact plain.name.word_append (endsRun_cons (by decide) _)

theorem FunctionFind.IsPlain.bareMethod_signature (plain : find.IsPlain) (rest : List Char) :
    bareMethod (find.signature ++ rest) = some (find.name, rest) := by
  refine (bind_of_read (plain.word_signature rest)).trans ?_
  exact parameterList_append (fun _ => find.name) (not_mem_commaText_params plain.params) rest

theorem FunctionFind.IsPlain.declaration_signature (plain : find.IsPlain) (rest : List Char) :
    declaration ("function ".toList ++ (find.signature ++ rest)) =
      some ((find.name, Text.commaText find.params), rest) := by
  have keyword : "function ".toList = "function".toList ++ [' '] := rfl
  have isName : EndsRun Text.isBlank (find.signature ++ rest) := by
    unfold FunctionFind.signature
    rw [List.append_assoc]
    exact plain.name.endsBlanks _
  rw [keyword, List.append_assoc]
  refine (bind_of_read (literal_append "function" _)).trans ?_
  refine (bind_of_read (someBlanks_space isName)).trans ?_
  refine (bind_of_read (plain.word_signature rest)).trans ?_
  exact parameterList_append (fun inner => (find.name, inner))
    (not_mem_commaText_params plain.params) rest

/-! ### The first pass -/

/-- **The first pass finds a written function,** and goes on behind it. -/
theorem FunctionFind.IsPlain.matchesFrom_declaration (plain : find.IsPlain)
    (before rest : List Char) : ∃ hit before',
      matchesFrom (fun _ => declaration) before 0 (find.written ++ rest) =
        hit :: matchesFrom (fun _ => declaration) before' 0 rest ∧ Declaration.find hit = find := by
  obtain ⟨inner, parts⟩ := plain.fallsInto
  have passes : Passes declaration (inner ++ ['\n']) rest :=
    parts.passes meets_declaration rfl
  have long : "function ".toList ++ find.signature ≠ [] := List.cons_ne_nil _ _
  have matched : declaration ("function ".toList ++ find.signature ++ (inner ++ ['\n'] ++ rest)) =
      some ((find.name, Text.commaText find.params), inner ++ ['\n'] ++ rest) := by
    rw [List.append_assoc]
    exact plain.declaration_signature _
  rw [parts.whole, ← List.append_assoc, matchesFrom_matched long matched,
    matchesFrom_passed (fun _ _ unread => unread) passes]
  refine ⟨_, _, rfl, ?_⟩
  unfold Declaration.find
  rw [paramsOf_commaText plain.params, List.append_assoc, parts.block, String.ofList_toList]

theorem map_find_matchesFrom {finds : List FunctionFind} (plain : ∀ find ∈ finds, find.IsPlain)
    (before : List Char) :
    (matchesFrom (fun _ => declaration) before 0 (writtenFunctions finds)).map Declaration.find =
      finds := by
  -- The text before a function changes along the way, so the induction is for any such text.
  induction finds generalizing before with
  | nil => rfl
  | cons find finds ih =>
    rw [List.forall_mem_cons] at plain
    obtain ⟨hit, before', step, same⟩ :=
      plain.1.matchesFrom_declaration before (writtenFunctions finds)
    rw [writtenFunctions, List.flatMap_cons, ← writtenFunctions, step, List.map_cons, same,
      ih plain.2]

/-- **The first pass finds the functions that have been written,** in their order. -/
theorem declared_writtenFunctions {finds : List FunctionFind}
    (plain : ∀ find ∈ finds, find.IsPlain) : declared (writtenFunctions finds) = finds := by
  rw [declared_eq]
  exact map_find_matchesFrom plain []

/-! ### The third pass -/

/-- No bare method begins in the word `function` that stands in front of a name. -/
theorem passes_bareMethod_keyword {name : String} (isWord : IsWord name) (rest : List Char) :
    Passes bareMethod "function ".toList (name.toList ++ rest) := by
  have keyword : "function ".toList = "function".toList ++ [' '] := rfl
  intro back nonempty suffix
  rw [keyword] at suffix
  rcases List.suffix_concat_iff.mp suffix with rfl | ⟨letters, rfl, within⟩
  · exact absurd rfl nonempty
  · have apart : EndsRun Text.isWord (' ' :: (name.toList ++ rest)) := endsRun_cons (by decide) _
    rw [List.append_assoc, List.singleton_append]
    by_cases none : letters = []
    · rw [none]
      exact bind_of_none (word_of_endsRun apart)
    · have areWord : ∀ c ∈ letters, Text.isWord c = true :=
        fun c member => isWord_function.2 c (within.subset member)
      refine (bind_of_read (word_append none areWord apart)).trans ?_
      refine (bind_of_read (blanks_space (isWord.endsBlanks rest))).trans ?_
      exact bind_of_none (enclosed_of_endsRun (isWord.endsChar (by decide) rest))

/-- **The third pass comes to a written function at its name,** which stands behind the word
`function`, and goes on behind it at the beginning of a line. -/
theorem FunctionFind.IsPlain.matchesFrom_bareMethod (plain : find.IsPlain) {before : List Char}
    (apart : atBoundary before = true) (rest : List Char) : ∃ hit before',
      matchesFrom (atWordStart bareMethod) before 0 (find.written ++ rest) =
        hit :: matchesFrom (atWordStart bareMethod) before' 0 rest ∧
      followsFunctionWord hit.before = true ∧ atBoundary before' = true := by
  obtain ⟨inner, parts⟩ := plain.fallsInto
  have passes : Passes bareMethod (inner ++ ['\n']) rest :=
    parts.passes meets_bareMethod rfl
  have keyword : Passes bareMethod "function ".toList
      (find.signature ++ (inner ++ ['\n'] ++ rest)) := by
    rw [FunctionFind.signature, List.append_assoc]
    exact passes_bareMethod_keyword plain.name _
  have long : find.signature ≠ [] := List.append_ne_nil_of_left_ne_nil plain.name.1 _
  have matched : atWordStart bareMethod ("function ".toList.reverse ++ before)
      (find.signature ++ (inner ++ ['\n'] ++ rest)) = some (find.name, inner ++ ['\n'] ++ rest) :=
    plain.bareMethod_signature _
  rw [parts.whole, matchesFrom_passed (fun _ _ => atWordStart_of_none) keyword,
    matchesFrom_matched long matched, matchesFrom_passed (fun _ _ => atWordStart_of_none) passes]
  refine ⟨_, _, rfl, ?_, ?_⟩
  · have near : [' '].length + "function".length ≤ lookBack := by decide
    have blank : ∀ c ∈ [' '], Text.isBlank c = true := List.forall_mem_singleton.mpr (by decide)
    exact (followsFunctionWord_append blank before).mpr ⟨near, apart⟩
  · rw [List.reverse_append]
    rfl

theorem followsFunctionWord_of_mem {finds : List FunctionFind}
    (plain : ∀ find ∈ finds, find.IsPlain) {before : List Char} (apart : atBoundary before = true) :
    ∀ hit ∈ matchesFrom (atWordStart bareMethod) before 0 (writtenFunctions finds),
      followsFunctionWord hit.before = true := by
  -- A function begins where a word can, and so does the next one.
  induction finds generalizing before with
  | nil => exact List.forall_mem_nil _
  | cons find finds ih =>
    rw [List.forall_mem_cons] at plain
    obtain ⟨hit, before', step, follows, apart'⟩ :=
      plain.1.matchesFrom_bareMethod apart (writtenFunctions finds)
    rw [writtenFunctions, List.flatMap_cons, ← writtenFunctions, step, List.forall_mem_cons]
    exact ⟨follows, ih plain.2 apart'⟩

/-- **The third pass finds nothing,** as the word `function` stands in front of each name. -/
theorem methodNames_writtenFunctions {finds : List FunctionFind}
    (plain : ∀ find ∈ finds, find.IsPlain) : methodNames (writtenFunctions finds) = [] := by
  have follows := followsFunctionWord_of_mem plain (by rfl : atBoundary [] = true)
  unfold methodNames
  rw [List.map_eq_nil_iff, List.filter_eq_nil_iff]
  intro hit member
  rw [follows hit member]
  simp

/-- **The three passes together** find the functions that have been written. -/
theorem functions_writtenFunctions {finds : List FunctionFind}
    (plain : ∀ find ∈ finds, find.IsPlain) : functions (writtenFunctions finds) = finds := by
  unfold functions
  rw [declared_writtenFunctions plain, methodNames_writtenFunctions plain,
    found_arrowBinding_of_isArrowFree (isArrowFree_writtenFunctions plain), List.map_nil,
    List.append_nil, List.append_nil]

end CodeBrief.Script
