/-
**Statements that import or export something.**

The forms in which a script imports and exports, with what can stand in them, and how they are
written: each on a line of its own.

* `Name`, `Target` — a name, which may be any word, and what can be imported.
* `Statement` — a static import, a constant for what `require` gives, or an exported name.
* `writtenStatements` — statements as text.
* `Statement.importTarget?`, `Statement.requireTarget?`, `Statement.exportedName?` — what a
  statement imports or exports.
* `not_mem_written` — where an opening parenthesis stands.
-/

import CodeBrief.Proofs.Pattern.Reading
import CodeBrief.Proofs.Text.Pieces

namespace CodeBrief.Script

open Pattern

/-- A name, which may be a keyword. -/
abbrev Name := {name : String // IsWord name}

/-- A character that can stand in a target. -/
def isTargetChar (c : Char) : Bool :=
  Text.isAsciiWord c || ['.', '/', '@', '-'].contains c

/-- What can be imported: a text of such characters, of which there is at least one. -/
abbrev Target :=
  {target : String // target.toList ≠ [] ∧ ∀ c ∈ target.toList, isTargetChar c = true}

/-- The quotes around a target. -/
inductive Quote
  | single
  | double

/-- What a static import binds. -/
inductive Binding
  /-- One name. -/
  | oneName (name : Name)
  /-- Names in braces. -/
  | someNames (first : Name) (others : List Name)
  /-- Everything under one name. -/
  | everything (name : Name)

/-- What is exported under a name. -/
inductive ExportKind
  | constBinding
  | letBinding
  | varBinding
  | functionName
  | className

/-- A statement that imports or exports something. -/
inductive Statement
  /-- A static import. -/
  | imported (binding : Binding) (quote : Quote) (target : Target)
  /-- A constant for what `require` gives. -/
  | required (name : Name) (quote : Quote) (target : Target)
  /-- An exported name. -/
  | exported (isDefault : Bool) (kind : ExportKind) (name : Name)

/-- The characters of a name. -/
abbrev Name.letters (name : Name) : List Char :=
  name.val.toList

/-- The character on both sides. -/
def Quote.char : Quote → Char
  | .single => '\''
  | .double => '"'

/-- A target in quotes. -/
def quoted (quote : Quote) (target : Target) : List Char :=
  quote.char :: (target.val.toList ++ [quote.char])

/-- Names with a comma and a space between them. -/
def namesText (names : List Name) : List Char :=
  Text.commaText (names.map Subtype.val)

/-- What is bound, as text. -/
def Binding.written : Binding → List Char
  | .oneName name => name.letters
  | .someNames first others => "\x7b ".toList ++ namesText (first :: others) ++ " \x7d".toList
  | .everything name => "* as ".toList ++ name.letters

/-- The keyword of a kind. -/
def ExportKind.keyword : ExportKind → String
  | .constBinding => "const"
  | .letBinding => "let"
  | .varBinding => "var"
  | .functionName => "function"
  | .className => "class"

/-- The word behind `export`, if there is one. -/
def defaultText (isDefault : Bool) : List Char :=
  if isDefault then "default ".toList else []

/-- A statement as a line of text. -/
def Statement.written : Statement → List Char
  | .imported binding quote target =>
    "import ".toList ++ binding.written ++ " from ".toList ++ quoted quote target ++ ";\n".toList
  | .required name quote target =>
    "const ".toList ++ name.letters ++ " = require(".toList ++ quoted quote target ++ ");\n".toList
  | .exported isDefault kind name =>
    "export ".toList ++ defaultText isDefault ++ kind.keyword.toList ++ " ".toList ++
      name.letters ++ ";\n".toList

/-- Statements one after another. -/
def writtenStatements (statements : List Statement) : List Char :=
  statements.flatMap Statement.written

/-- The target of a static import. -/
def Statement.importTarget? : Statement → Option String
  | .imported _ _ target => some target.val
  | _ => none

/-- The target of a `require` call. -/
def Statement.requireTarget? : Statement → Option String
  | .required _ _ target => some target.val
  | _ => none

/-- The name that is exported. -/
def Statement.exportedName? : Statement → Option String
  | .exported _ _ name => some name.val
  | _ => none

/-! ### What stands in the texts -/

theorem toNat_of_isTargetChar {c : Char} (inTarget : isTargetChar c = true) :
    45 ≤ c.toNat ∧ c.toNat ≤ 122 := by
  unfold isTargetChar at inTarget
  rw [Bool.or_eq_true] at inTarget
  rcases inTarget with inWord | mark
  · have code := Text.toNat_of_isAsciiWord inWord
    omega
  · have marks : ['.', '/', '@', '-'].all (fun mark => 45 ≤ mark.toNat ∧ mark.toNat ≤ 122) := by
      decide
    exact of_decide_eq_true (List.all_eq_true.mp marks c (List.contains_iff_mem.mp mark))

theorem Name.solid (name : Name) : ∀ c ∈ name.letters, Text.isBlank c = false :=
  fun c member => Text.isBlank_of_isWord (name.property.2 c member)

theorem Target.solid (target : Target) : ∀ c ∈ target.val.toList, Text.isBlank c = false := by
  intro c member
  have code := toNat_of_isTargetChar (target.property.2 c member)
  refine eq_false_of_ne_true fun blank => ?_
  simp only [Text.isBlank, Bool.or_eq_true, Bool.and_eq_true, decide_eq_true_eq, beq_iff_eq]
    at blank
  omega

/-- Characters that come before those of targets stand in none. -/
theorem ne_of_isTargetChar {c mark : Char} (inTarget : isTargetChar c = true)
    (before : mark.toNat < 45) : c ≠ mark := by
  rintro rfl
  have code := toNat_of_isTargetChar inTarget
  omega

theorem isQuote_of_isTargetChar {c : Char} (inTarget : isTargetChar c = true) :
    isQuote c = false := by
  have single := ne_of_isTargetChar inTarget (by decide : '\''.toNat < 45)
  have double := ne_of_isTargetChar inTarget (by decide : '"'.toNat < 45)
  simp [isQuote, single, double]

theorem isQuote_char (quote : Quote) : isQuote quote.char = true := by
  cases quote <;> rfl

theorem not_mem_namesText {mark : Char} (notWord : Text.isWord mark = false)
    (other : mark ≠ ',' ∧ mark ≠ ' ') (names : List Name) : mark ∉ namesText names := by
  refine Text.not_mem_commaText other fun text member => ?_
  obtain ⟨name, -, rfl⟩ := List.mem_map.mp member
  exact name.property.not_mem notWord

theorem not_mem_quoted (quote : Quote) (target : Target) : '(' ∉ quoted quote target := by
  have inTarget : '(' ∉ target.val.toList := by
    intro member
    exact ne_of_isTargetChar (target.property.2 _ member) (by decide : '('.toNat < 45) rfl
  have other : '(' ≠ quote.char := by cases quote <;> decide
  simp [quoted, inTarget, other]

theorem not_mem_binding (binding : Binding) : '(' ∉ binding.written := by
  have notWord : Text.isWord '(' = false := by decide
  cases binding with
  | oneName name => exact name.property.not_mem notWord
  | someNames first others =>
    have absent := not_mem_namesText notWord (by decide) (first :: others)
    have braces : '(' ∉ "\x7b ".toList ∧ '(' ∉ " \x7d".toList := by decide
    unfold Binding.written
    simp only [List.mem_append, not_or]
    exact ⟨⟨braces.1, absent⟩, braces.2⟩
  | everything name =>
    have front : '(' ∉ "* as ".toList := by decide
    unfold Binding.written
    simp only [List.mem_append, not_or]
    exact ⟨front, name.property.not_mem notWord⟩

/-- **An opening parenthesis stands in a call of `require` only.** -/
theorem not_mem_written {statement : Statement} (noCall : statement.requireTarget? = none) :
    '(' ∉ statement.written := by
  cases statement with
  | imported binding quote target =>
    have fixed : '(' ∉ "import ".toList ∧ '(' ∉ " from ".toList ∧ '(' ∉ ";\n".toList := by decide
    unfold Statement.written
    simp only [List.mem_append, not_or]
    exact ⟨⟨⟨⟨fixed.1, not_mem_binding binding⟩, fixed.2.1⟩, not_mem_quoted quote target⟩,
      fixed.2.2⟩
  | required name quote target => cases noCall
  | exported isDefault kind name =>
    have fixed : '(' ∉ "export ".toList ∧ '(' ∉ " ".toList ∧ '(' ∉ ";\n".toList := by decide
    have default : '(' ∉ defaultText isDefault := by cases isDefault <;> decide
    have keyword : '(' ∉ kind.keyword.toList := by cases kind <;> decide
    have letters : '(' ∉ name.letters := name.property.not_mem (by decide)
    unfold Statement.written
    simp only [List.mem_append, not_or]
    exact ⟨⟨⟨⟨⟨fixed.1, default⟩, keyword⟩, fixed.2.1⟩, letters⟩, fixed.2.2⟩

theorem lineFeed_suffix (statement : Statement) : ['\n'] <:+ statement.written := by
  have semicolon : ['\n'] <:+ ";\n".toList := by decide
  have closing : ['\n'] <:+ ");\n".toList := by decide
  cases statement <;> unfold Statement.written
  · exact semicolon.trans (List.suffix_append _ _)
  · exact closing.trans (List.suffix_append _ _)
  · exact semicolon.trans (List.suffix_append _ _)

end CodeBrief.Script
