/-
**Reading back the imports and exports that have been written.**

Of statements that are written one after another the two import patterns find the targets of the
static imports and of the `require` calls, and the export pattern the names that are exported,
whatever words the names are.

* `found_staticImport`, `found_requireCall`, `found_exportDeclaration` — what each pattern finds of
  one statement with other text behind it.
* `readsBack_writtenStatements` — all three patterns on all statements.

The patterns for imports and exports begin with a keyword that needs a blank behind it. The keyword
may well be the end of a name; then what stands behind the name is not what the pattern goes on with
(`passes_run_mark`, `passes_name_space`). The pattern of `require` calls has to come to an opening
parenthesis, and there is none but in such a call.
-/

import CodeBrief.Proofs.Pattern.Passing
import CodeBrief.Proofs.Script.Statements
import CodeBrief.Script.Dependency

namespace CodeBrief.Script

open Pattern

/-! ### Keywords that need a blank behind them -/

section Keyword

variable {α : Type} {keyword : String} {next : Reader α}

/-- A keyword, a blank, and what comes next. -/
abbrev keyworded (keyword : String) (next : Reader α) : Reader α :=
  literal keyword >>= fun _ => someBlanks >>= fun _ => next

variable (isWord : IsWord keyword)
include isWord

theorem passes_mark {mark : Char} (notWord : Text.isWord mark = false) (rest : List Char) :
    Passes (keyworded keyword next) [mark] rest := by
  have unread := literal_of_not_mem isWord.1 (isWord.not_mem notWord) rest
  exact passes_cons.mpr ⟨bind_of_none unread, passes_nil _ rest⟩

/-- A keyword is passed in a run without blanks if what stands behind the run does not go on. -/
theorem passes_run {run after : List Char} (solid : ∀ c ∈ run, Text.isBlank c = false)
    {mark : Char} (notWord : Text.isWord mark = false)
    (fails : (someBlanks >>= fun _ => next) (mark :: after) = none) :
    Passes (keyworded keyword next) run (mark :: after) := by
  refine passes_of_keyword solid (fun c member => ?_) fails
  rw [List.head?_cons, Option.mem_some_iff] at member
  exact member ▸ isWord.not_mem notWord

/-- So it is if a character that is no blank stands behind the run. -/
theorem passes_run_mark {run : List Char} (solid : ∀ c ∈ run, Text.isBlank c = false) {mark : Char}
    (notWord : Text.isWord mark = false) (notBlank : Text.isBlank mark = false)
    (after : List Char) : Passes (keyworded keyword next) run (mark :: after) := by
  have noBlank : EndsRun Text.isBlank (mark :: after) := endsRun_cons notBlank after
  exact passes_run isWord solid notWord (bind_of_none (someBlanks_of_endsRun noBlank))

/-- A space stands behind a name. -/
theorem passes_name_space (name : Name) {after : List Char}
    (noBlank : EndsRun Text.isBlank after) (fails : next after = none) :
    Passes (keyworded keyword next) name.letters (' ' :: after) :=
  passes_run isWord name.solid (by decide) ((bind_of_read (someBlanks_space noBlank)).trans fails)

theorem passes_quoted (quote : Quote) (target : Target) (rest : List Char) :
    Passes (keyworded keyword next) (quoted quote target) rest := by
  have notWord : Text.isWord quote.char = false := by cases quote <;> decide
  have notBlank : Text.isBlank quote.char = false := by cases quote <;> decide
  have inside : Passes (keyworded keyword next) target.val.toList ([quote.char] ++ rest) :=
    passes_run_mark isWord target.solid notWord notBlank rest
  exact (passes_mark isWord notWord _).append (inside.append (passes_mark isWord notWord rest))

end Keyword

/-! ### Static imports -/

theorem quotedText_quoted (quote : Quote) (target : Target) (rest : List Char) :
    quotedText (quoted quote target ++ rest) = some (target.val, rest) := by
  have free : ∀ c ∈ target.val.toList, isQuote c = false :=
    fun c member => isQuote_of_isTargetChar (target.property.2 c member)
  have parts : quoted quote target ++ rest =
      quote.char :: (target.val.toList ++ quote.char :: rest) := by
    rw [quoted, List.cons_append, List.append_assoc, List.singleton_append]
  rw [parts]
  exact quotedText_append (isQuote_char quote) (isQuote_char quote) target.property.1 free rest

theorem endsBlanks_quoted (quote : Quote) (target : Target) (rest : List Char) :
    EndsRun Text.isBlank (quoted quote target ++ rest) := by
  have notBlank : Text.isBlank quote.char = false := by cases quote <;> rfl
  exact endsRun_cons notBlank _

theorem endsBlanks_written (binding : Binding) (rest : List Char) :
    EndsRun Text.isBlank (binding.written ++ rest) := by
  cases binding with
  | oneName name => exact name.property.endsBlanks rest
  | someNames first others => exact endsRun_cons (by decide : Text.isBlank '{' = false) _
  | everything name => exact endsRun_cons (by decide : Text.isBlank '*' = false) _

/-- **What is bound is read as a whole,** whichever form it has. -/
theorem importedNames_written (binding : Binding) (rest : List Char) :
    importedNames (binding.written ++ ' ' :: rest) = some ((), ' ' :: rest) := by
  have space : EndsRun Text.isWord (' ' :: rest) := endsRun_cons (by decide) rest
  cases binding with
  | oneName name =>
    have noBrace : EndsRun (· == '{') (name.letters ++ ' ' :: rest) :=
      name.property.endsChar (by decide) _
    refine (orElse_of_none (bind_of_none (enclosed_of_endsRun noBrace))).trans ?_
    exact orElse_of_read (bind_of_read (name.property.word_append space))
  | someNames first others =>
    have free : '}' ∉ [' '] ++ namesText (first :: others) ++ [' '] := by
      have absent := not_mem_namesText (by decide : Text.isWord '}' = false) (by decide)
        (first :: others)
      simp [absent]
    have parts : (Binding.someNames first others).written ++ ' ' :: rest =
        '{' :: ([' '] ++ namesText (first :: others) ++ [' '] ++ '}' :: ' ' :: rest) := by
      have opening : "\x7b ".toList = ['{', ' '] := rfl
      have closing : " \x7d".toList = [' ', '}'] := rfl
      rw [Binding.written, opening, closing]
      simp only [List.append_assoc, List.cons_append, List.nil_append]
    rw [parts]
    exact orElse_of_read (bind_of_read (enclosed_append '{' free _))
  | everything name =>
    have parts : (Binding.everything name).written ++ ' ' :: rest =
        '*' :: ' ' :: ("as".toList ++ ' ' :: (name.letters ++ ' ' :: rest)) := by
      have front : "* as ".toList = '*' :: ' ' :: ("as".toList ++ [' ']) := rfl
      rw [Binding.written, front]
      simp only [List.append_assoc, List.cons_append, List.nil_append]
    have letter : Text.isBlank 'a' = false := by decide
    have noWord (text : List Char) : EndsRun Text.isWord ('*' :: text) :=
      endsRun_cons (by decide) text
    rw [parts]
    refine (orElse_of_none (bind_of_none rfl)).trans ?_
    refine (orElse_of_none (bind_of_none (word_of_endsRun (noWord _)))).trans ?_
    refine (bind_of_read (literal_append "*" _)).trans ?_
    refine (bind_of_read (someBlanks_space (endsRun_cons letter _))).trans ?_
    refine (bind_of_read (literal_append "as" _)).trans ?_
    refine (bind_of_read (someBlanks_space (name.property.endsBlanks _))).trans ?_
    exact bind_of_read (name.property.word_append space)

theorem staticImport_written (binding : Binding) (quote : Quote) (target : Target)
    (rest : List Char) :
    staticImport ("import ".toList ++ binding.written ++ " from ".toList ++ quoted quote target ++
      rest) = some (target.val, rest) := by
  have parts : "import ".toList ++ binding.written ++ " from ".toList ++ quoted quote target ++
      rest = "import".toList ++ ' ' :: (binding.written ++
        ' ' :: ("from".toList ++ ' ' :: (quoted quote target ++ rest))) := by
    have keyword : "import ".toList = "import".toList ++ [' '] := rfl
    have from' : " from ".toList = ' ' :: ("from".toList ++ [' ']) := rfl
    rw [keyword, from']
    simp only [List.append_assoc, List.cons_append, List.nil_append]
  have letter : Text.isBlank 'f' = false := by decide
  rw [parts]
  refine (bind_of_read (literal_append "import" _)).trans ?_
  refine (bind_of_read (someBlanks_space (endsBlanks_written binding _))).trans ?_
  refine (bind_of_read (importedNames_written binding _)).trans ?_
  refine (bind_of_read (someBlanks_space (endsRun_cons letter _))).trans ?_
  refine (bind_of_read (literal_append "from" _)).trans ?_
  refine (bind_of_read (someBlanks_space (endsBlanks_quoted quote target rest))).trans ?_
  exact quotedText_quoted quote target rest

/-- No static import has a name that is followed by an equals sign. -/
theorem importTail_equals (rest : List Char) :
    (importedNames >>= fun _ => do
      someBlanks
      literal "from"
      someBlanks
      quotedText) ('=' :: rest) = none := by
  refine bind_of_none ((orElse_of_none (bind_of_none ?_)).trans
    ((orElse_of_none (bind_of_none ?_)).trans ?_))
  · exact enclosed_of_endsRun (endsRun_cons (by decide) rest)
  · exact word_of_endsRun (endsRun_cons (by decide) rest)
  · rfl

theorem isWord_import : IsWord "import" := by decide

/-- **What the pattern of static imports finds of one statement.** -/
theorem found_staticImport (statement : Statement) (rest : List Char) :
    found staticImport (statement.written ++ rest) =
      statement.importTarget?.toList ++ found staticImport rest := by
  cases statement with
  | imported binding quote target =>
    have matched := staticImport_written binding quote target (";\n".toList ++ rest)
    have passes : Passes staticImport ";\n".toList rest := passes_of_clash (by decide) rest
    have long : "import ".toList ++ binding.written ++ " from ".toList ++ quoted quote target ≠
        [] :=
      List.append_ne_nil_of_right_ne_nil _ (List.cons_ne_nil _ _)
    unfold Statement.written
    rw [List.append_assoc _ _ rest, found_matched long matched, found_passed passes]
    rfl
  | required name quote target =>
    refine found_passed ?_
    refine (((Passes.append ?_ ?_).append ?_).append ?_).append ?_
    · exact passes_of_clash (by decide) _
    · exact passes_name_space isWord_import name (endsRun_cons (by decide) _) (importTail_equals _)
    · exact passes_of_clash (by decide) _
    · exact passes_quoted isWord_import quote target _
    · exact passes_of_clash (by decide) _
  | exported isDefault kind name =>
    refine found_passed ?_
    refine ((((Passes.append ?_ ?_).append ?_).append ?_).append ?_).append ?_
    · exact passes_of_clash (by decide) _
    · cases isDefault
      · exact passes_nil _ _
      · exact passes_of_clash (by decide) _
    · cases kind <;> exact passes_of_clash (by decide) _
    · exact passes_of_clash (by decide) _
    · exact passes_run_mark isWord_import name.solid (by decide) (by decide) _
    · exact passes_of_clash (by decide) _

/-! ### Exports -/

theorem exportedName_written (kind : ExportKind) (name : Name) {rest : List Char}
    (ends : EndsRun Text.isWord rest) :
    exportedName (kind.keyword.toList ++ ' ' :: (name.letters ++ rest)) =
      some (name.val, rest) := by
  have read (text : List Char) : oneOf ["const", "let", "var", "function", "class"]
      (kind.keyword.toList ++ text) = some (kind.keyword, text) := by
    cases kind <;> rfl
  refine (bind_of_read (read _)).trans ?_
  refine (bind_of_read (someBlanks_space (name.property.endsBlanks _))).trans ?_
  exact name.property.word_append ends

theorem exportDeclaration_written (isDefault : Bool) (kind : ExportKind) (name : Name)
    {rest : List Char} (ends : EndsRun Text.isWord rest) :
    exportDeclaration ("export ".toList ++ defaultText isDefault ++ kind.keyword.toList ++
      " ".toList ++ name.letters ++ rest) = some (name.val, rest) := by
  have parts : "export ".toList ++ defaultText isDefault ++ kind.keyword.toList ++ " ".toList ++
      name.letters ++ rest = "export".toList ++ ' ' :: (defaultText isDefault ++
        (kind.keyword.toList ++ ' ' :: (name.letters ++ rest))) := by
    have keyword : "export ".toList = "export".toList ++ [' '] := rfl
    have space : " ".toList = [' '] := rfl
    rw [keyword, space]
    simp only [List.append_assoc, List.cons_append, List.nil_append]
  have endsKind (text : List Char) : EndsRun Text.isBlank (kind.keyword.toList ++ text) := by
    cases kind <;> exact endsRun_cons (by decide) _
  rw [parts]
  refine (bind_of_read (literal_append "export" _)).trans ?_
  cases isDefault with
  | true =>
    have letter : Text.isBlank 'd' = false := by decide
    have keyword : defaultText true = "default".toList ++ [' '] := rfl
    rw [keyword, List.append_assoc, List.singleton_append]
    refine (bind_of_read (someBlanks_space (endsRun_cons letter _))).trans (orElse_of_read ?_)
    refine (bind_of_read (literal_append "default" _)).trans ?_
    refine (bind_of_read (someBlanks_space (endsKind _))).trans ?_
    exact exportedName_written kind name ends
  | false =>
    have other (text : List Char) : literal "default" (kind.keyword.toList ++ text) = none := by
      cases kind <;> rfl
    refine (bind_of_read (someBlanks_space (endsKind _))).trans ?_
    exact (orElse_of_none (bind_of_none (other _))).trans (exportedName_written kind name ends)

theorem isWord_export : IsWord "export" := by decide

/-- Nothing is exported behind the word `export` if one of these texts follows. -/
theorem exportTail_of_mem {lead : List Char} (member : lead ∈ [['='], ['}'], "from".toList])
    (rest : List Char) :
    ((do literal "default"; someBlanks; exportedName) <|> exportedName) (lead ++ rest) = none := by
  simp only [List.mem_cons, List.not_mem_nil, or_false] at member
  rcases member with rfl | rfl | rfl <;> rfl

theorem passes_namesText (names : List Name) (nonempty : names ≠ []) (rest : List Char) :
    Passes exportDeclaration (namesText names) (" \x7d".toList ++ rest) := by
  unfold namesText
  induction names with
  | nil => exact absurd rfl nonempty
  | cons first others ih =>
    cases others with
    | nil =>
      rw [List.map_singleton, Text.commaText_singleton]
      exact passes_name_space isWord_export first (endsRun_cons (by decide) _)
        (exportTail_of_mem (by decide : ['}'] ∈ _) rest)
    | cons second others =>
      have comma (rest : List Char) : Passes exportDeclaration [',', ' '] rest :=
        passes_of_clash (by decide) rest
      rw [List.map_cons, List.map_cons, Text.commaText_cons_cons]
      refine Passes.append ?_ ((comma _).append (ih (List.cons_ne_nil _ _)))
      exact passes_run_mark isWord_export first.solid (by decide) (by decide) _

theorem passes_binding (binding : Binding) (rest : List Char) :
    Passes exportDeclaration binding.written (" from ".toList ++ rest) := by
  have name_from (name : Name) :
      Passes exportDeclaration name.letters (" from ".toList ++ rest) :=
    passes_name_space isWord_export name (endsRun_cons (by decide) _)
      (exportTail_of_mem (by decide : "from".toList ∈ _) (' ' :: rest))
  cases binding with
  | oneName name => exact name_from name
  | someNames first others =>
    refine (Passes.append ?_ ?_).append ?_
    · exact passes_of_clash (by decide) _
    · exact passes_namesText _ (List.cons_ne_nil first others) _
    · exact passes_of_clash (by decide) _
  | everything name => exact (passes_of_clash (by decide) _).append (name_from name)

/-- **What the export pattern finds of one statement.** -/
theorem found_exportDeclaration (statement : Statement) (rest : List Char) :
    found exportDeclaration (statement.written ++ rest) =
      statement.exportedName?.toList ++ found exportDeclaration rest := by
  cases statement with
  | imported binding quote target =>
    refine found_passed ?_
    refine (((Passes.append ?_ ?_).append ?_).append ?_).append ?_
    · exact passes_of_clash (by decide) _
    · exact passes_binding binding _
    · exact passes_of_clash (by decide) _
    · exact passes_quoted isWord_export quote target _
    · exact passes_of_clash (by decide) _
  | required name quote target =>
    refine found_passed ?_
    refine (((Passes.append ?_ ?_).append ?_).append ?_).append ?_
    · exact passes_of_clash (by decide) _
    · exact passes_name_space isWord_export name (endsRun_cons (by decide) _)
        (exportTail_of_mem (by decide : ['='] ∈ _) _)
    · exact passes_of_clash (by decide) _
    · exact passes_quoted isWord_export quote target _
    · exact passes_of_clash (by decide) _
  | exported isDefault kind name =>
    have semicolon : EndsRun Text.isWord (";\n".toList ++ rest) := endsRun_cons (by decide) _
    have matched := exportDeclaration_written isDefault kind name semicolon
    have passes : Passes exportDeclaration ";\n".toList rest := passes_of_clash (by decide) rest
    have long : "export ".toList ++ defaultText isDefault ++ kind.keyword.toList ++ " ".toList ++
        name.letters ≠ [] :=
      List.append_ne_nil_of_right_ne_nil _ name.property.1
    unfold Statement.written
    rw [List.append_assoc _ _ rest, found_matched long matched, found_passed passes]
    rfl

/-! ### Calls of `require` -/

theorem meets_requireCall : Meets requireCall '(' (· ∈ "require".toList) := by
  have keyword : Meets (literal "require(") '(' (· ∈ "require".toList) :=
    (takes_literal "require(").mono fun taken same =>
      ⟨"require".toList, [], same, fun _ inside => inside⟩
  exact keyword.bind fun _ => takes_quotedText.bind_any fun target =>
    (takes_any_literal ")").bind_any fun _ => takes_any_pure target

/-- No call stands in a text without an opening parenthesis that ends with a line feed. -/
theorem passes_requireCall {front : List Char} (free : '(' ∉ front) (last : ['\n'] <:+ front)
    (rest : List Char) : Passes requireCall front rest :=
  passes_of_barrier meets_requireCall free last (by decide) rest

theorem requireCall_written (quote : Quote) (target : Target) (rest : List Char) :
    requireCall ("require(".toList ++ quoted quote target ++ ")".toList ++ rest) =
      some (target.val, rest) := by
  rw [List.append_assoc, List.append_assoc]
  refine (bind_of_read (literal_append "require(" _)).trans ?_
  refine (bind_of_read (quotedText_quoted quote target _)).trans ?_
  exact bind_of_read (literal_append ")" rest)

/-- What stands in front of the call, and what stands behind it. -/
theorem required_append (name : Name) (quote : Quote) (target : Target) (rest : List Char) :
    (Statement.required name quote target).written ++ rest =
      ("const ".toList ++ name.letters ++ " = ".toList) ++
        (("require(".toList ++ quoted quote target ++ ")".toList) ++ (";\n".toList ++ rest)) := by
  have call : " = require(".toList = " = ".toList ++ "require(".toList := rfl
  have closing : ");\n".toList = ")".toList ++ ";\n".toList := rfl
  unfold Statement.written
  rw [call, closing]
  simp only [List.append_assoc]

/-- The space in front of the call is no letter of `require`. -/
theorem passes_beforeCall (name : Name) (rest : List Char) :
    Passes requireCall ("const ".toList ++ name.letters ++ " = ".toList) rest := by
  have fixed : '(' ∉ "const ".toList ∧ '(' ∉ " = ".toList := by decide
  have letters : '(' ∉ name.letters := name.property.not_mem (by decide)
  have space : [' '] <:+ "const ".toList ++ name.letters ++ " = ".toList :=
    (by decide : [' '] <:+ " = ".toList).trans (List.suffix_append _ _)
  refine passes_of_barrier meets_requireCall ?_ space (by decide) rest
  simp only [List.mem_append, not_or]
  exact ⟨⟨fixed.1, letters⟩, fixed.2⟩

/-- **What the pattern of `require` calls finds of one statement.** -/
theorem found_requireCall (statement : Statement) (rest : List Char) :
    found requireCall (statement.written ++ rest) =
      statement.requireTarget?.toList ++ found requireCall rest := by
  cases statement with
  | imported binding quote target =>
    refine found_passed ?_
    exact passes_requireCall (not_mem_written rfl) (lineFeed_suffix _) rest
  | required name quote target =>
    have matched := requireCall_written quote target (";\n".toList ++ rest)
    have long : "require(".toList ++ quoted quote target ++ ")".toList ≠ [] :=
      List.append_ne_nil_of_right_ne_nil _ (by decide)
    have passes : Passes requireCall ";\n".toList rest :=
      passes_requireCall (by decide) (by decide) rest
    rw [required_append, found_passed (passes_beforeCall name _), found_matched long matched,
      found_passed passes]
    rfl
  | exported isDefault kind name =>
    refine found_passed ?_
    exact passes_requireCall (not_mem_written rfl) (lineFeed_suffix _) rest

/-! ### All statements -/

/-- **Reading back what has been written.** The imports are the targets of the static imports in
their order and then those of the `require` calls in theirs; the exports are the exported names in
their order. -/
theorem readsBack_writtenStatements (statements : List Statement) :
    imports (writtenStatements statements) =
        statements.filterMap Statement.importTarget? ++
          statements.filterMap Statement.requireTarget? ∧
      exports (writtenStatements statements) = statements.filterMap Statement.exportedName? := by
  unfold imports exports writtenStatements
  rw [found_flatMap found_staticImport, found_flatMap found_requireCall,
    found_flatMap found_exportDeclaration]
  exact ⟨rfl, rfl⟩

/-- Names that are keywords of the patterns themselves. -/
example :
    let name (text : String) (isWord : IsWord text) : Name := ⟨text, isWord⟩
    let target : Target := ⟨"./a", by decide, List.all_eq_true.mp (by decide)⟩
    String.ofList (writtenStatements
      [.imported (.someNames (name "from" (by decide)) [name "import" (by decide)]) .single target,
        .required (name "require" (by decide)) .double target,
        .exported true .className (name "export" (by decide))]) =
      "import \x7b from, import \x7d from './a';\nconst require = require(\"./a\");\n" ++
        "export default class export;\n" := by
  decide +kernel

end CodeBrief.Script
