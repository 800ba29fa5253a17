/-
**What glob patterns match.**

The table of a pattern tells for each end of a text whether the pattern matches it. It is filled
backwards, part by part; read forwards, it says what one expects of the parts.

* `Matches` — what it means that the parts of a pattern match a text.
* `accepts_iff_matches` — a pattern accepts what its parts match.
* `accepts_ofText_plain` — a pattern without signs accepts itself and nothing else.
* `exists_cons_of_accepts` — one that begins with a character that is no sign accepts only what begins
  with it.
-/

import CodeBrief.Repository.Glob
import Mathlib.Data.List.Basic

namespace CodeBrief.Glob

/-- The parts of a pattern match a text as a whole. -/
inductive Matches : List Token → List Char → Prop
  /-- Nothing matches the empty text. -/
  | nil : Matches [] []
  /-- A star takes any characters in front. -/
  | star (taken : List Char) {rest : List Token} {text : List Char} (later : Matches rest text) :
      Matches (.star :: rest) (taken ++ text)
  /-- Every other part takes one character. -/
  | one {token : Token} {c : Char} {rest : List Token} {text : List Char}
      (takes : token.takes c = true) (later : Matches rest text) :
      Matches (token :: rest) (c :: text)

/-! ### The table -/

/-- Whether the parts match all of a text, as the table tells. -/
def first (tokens : List Token) (text : List Char) : Bool :=
  (matchTable tokens text).head?.getD false

theorem orLater_cons (here : Bool) (row : List Bool) :
    orLater (here :: row) = (here || (orLater row).head?.getD false) :: orLater row := by
  rw [orLater]
  cases orLater row with
  | nil => simp
  | cons next others => rfl

/-- The row for a star. -/
theorem matchTable_star (rest : List Token) (text : List Char) :
    matchTable (.star :: rest) text = orLater (matchTable rest text) := rfl

/-- The row for a part that takes a character. -/
theorem matchTable_token {token : Token} (single : token ≠ .star) (rest : List Token)
    (text : List Char) :
    matchTable (token :: rest) text =
      List.zipWith (fun c later => token.takes c && later) text ((matchTable rest text).drop 1) ++
        [false] := by
  cases token with
  | star => exact absurd rfl single
  | _ => rfl

theorem matchTable_ne_nil (tokens : List Token) (text : List Char) :
    matchTable tokens text ≠ [] := by
  induction tokens with
  | nil => simp [matchTable]
  | cons token rest ih =>
    by_cases star : token = .star
    · obtain ⟨here, row, table⟩ := List.exists_cons_of_ne_nil ih
      rw [star, matchTable_star, table, orLater_cons]
      exact List.cons_ne_nil _ _
    · rw [matchTable_token star]
      exact List.append_ne_nil_of_right_ne_nil _ (List.cons_ne_nil _ _)

/-- **The table for a text goes on with the table for what follows its first character.** -/
theorem matchTable_cons (tokens : List Token) (c : Char) (text : List Char) :
    matchTable tokens (c :: text) = first tokens (c :: text) :: matchTable tokens text := by
  -- It is enough that the table goes on so, since its first place is what `first` reads.
  suffices further : ∃ here, matchTable tokens (c :: text) = here :: matchTable tokens text by
    obtain ⟨here, table⟩ := further
    rw [first, table]
    rfl
  induction tokens with
  | nil => exact ⟨false, rfl⟩
  | cons token rest ih =>
    obtain ⟨here, table⟩ := ih
    by_cases star : token = .star
    · rw [star, matchTable_star, table, orLater_cons]
      exact ⟨_, rfl⟩
    · obtain ⟨next, row, later⟩ := List.exists_cons_of_ne_nil (matchTable_ne_nil rest text)
      rw [matchTable_token star, matchTable_token star, table, later]
      exact ⟨token.takes c && next, rfl⟩

/-- The table for the empty text has one place. -/
theorem matchTable_nil (tokens : List Token) : matchTable tokens [] = [first tokens []] := by
  suffices single : ∃ here, matchTable tokens [] = [here] by
    obtain ⟨here, table⟩ := single
    rw [first, table]
    rfl
  induction tokens with
  | nil => exact ⟨true, rfl⟩
  | cons token rest ih =>
    obtain ⟨here, table⟩ := ih
    by_cases star : token = .star
    · rw [star, matchTable_star, table]
      exact ⟨here, rfl⟩
    · rw [matchTable_token star]
      exact ⟨false, rfl⟩

theorem first_nil (text : List Char) : first [] text = text.isEmpty := by
  cases text <;> rfl

/-- A star takes no character, or one and perhaps more. -/
theorem first_star_cons (rest : List Token) (c : Char) (text : List Char) :
    first (.star :: rest) (c :: text) = (first rest (c :: text) || first (.star :: rest) text) := by
  rw [first, matchTable_star, matchTable_cons, orLater_cons]
  rfl

theorem first_star_nil (rest : List Token) : first (.star :: rest) [] = first rest [] := by
  rw [first, matchTable_star, matchTable_nil]
  rfl

theorem first_token_cons {token : Token} (single : token ≠ .star) (rest : List Token) (c : Char)
    (text : List Char) :
    first (token :: rest) (c :: text) = (token.takes c && first rest text) := by
  obtain ⟨next, row, later⟩ := List.exists_cons_of_ne_nil (matchTable_ne_nil rest text)
  rw [first, first, matchTable_token single, matchTable_cons, List.drop_one, List.tail_cons, later]
  rfl

theorem first_token_nil {token : Token} (single : token ≠ .star) (rest : List Token) :
    first (token :: rest) [] = false := by
  rw [first, matchTable_token single]
  rfl

/-! ### Patterns -/

/-- The table holds at the first place of a star just if what follows the star matches some end. -/
theorem first_star_iff {rest : List Token} {text : List Char} :
    first (.star :: rest) text = true ↔
      ∃ taken later, text = taken ++ later ∧ first rest later = true := by
  induction text with
  | nil =>
    rw [first_star_nil]
    constructor
    · exact fun here => ⟨[], [], rfl, here⟩
    · rintro ⟨taken, later, split, here⟩
      rwa [(List.append_eq_nil_iff.mp split.symm).2] at here
  | cons c text ih =>
    rw [first_star_cons, Bool.or_eq_true, ih]
    constructor
    · rintro (here | ⟨taken, later, rfl, further⟩)
      · exact ⟨[], c :: text, rfl, here⟩
      · exact ⟨c :: taken, later, rfl, further⟩
    · rintro ⟨taken, later, split, here⟩
      cases taken with
      | nil =>
        rw [List.nil_append] at split
        exact .inl (split ▸ here)
      | cons d taken =>
        obtain ⟨rfl, rfl⟩ := List.cons.inj split
        exact .inr ⟨taken, later, rfl, here⟩

theorem first_iff_matches {tokens : List Token} {text : List Char} :
    first tokens text = true ↔ Matches tokens text := by
  induction tokens generalizing text with
  | nil =>
    rw [first_nil, List.isEmpty_iff]
    constructor
    · rintro rfl
      exact .nil
    · rintro ⟨⟩
      rfl
  | cons token rest ih =>
    by_cases star : token = .star
    · rw [star, first_star_iff]
      constructor
      · rintro ⟨taken, later, rfl, here⟩
        exact .star taken (ih.mp here)
      · intro whole
        cases whole with
        | star taken later => exact ⟨taken, _, rfl, ih.mpr later⟩
        | one takes => exact nomatch takes
    · cases text with
      | nil =>
        rw [first_token_nil star]
        refine ⟨nofun, fun whole => ?_⟩
        generalize empty : ([] : List Char) = text at whole
        cases whole with
        | star => exact absurd rfl star
        | one => cases empty
      | cons c text =>
        rw [first_token_cons star, Bool.and_eq_true, ih]
        constructor
        · exact fun here => .one here.1 here.2
        · intro whole
          generalize same : c :: text = text' at whole
          cases whole with
          | star => exact absurd rfl star
          | one takes later =>
            obtain ⟨rfl, rfl⟩ := List.cons.inj same
            exact ⟨takes, later⟩

/-- **A pattern accepts what its parts match.** -/
theorem accepts_iff_matches (tokens : List Token) (text : String) :
    accepts tokens text = true ↔ Matches tokens text.toList :=
  first_iff_matches

/-! ### Patterns without signs -/

/-- Whether a character stands for something else than itself in a pattern. -/
def isSign (c : Char) : Bool :=
  c == '*' || c == '?' || c == '['

theorem tokensFrom_of_not_isSign {c : Char} (plain : isSign c = false) (rest : List Char) :
    tokensFrom 0 (c :: rest) = .char c :: tokensFrom 0 rest := by
  simp only [isSign, Bool.or_eq_false_iff, beq_eq_false_iff_ne] at plain
  obtain ⟨⟨notStar, notAny⟩, notSet⟩ := plain
  rw [tokensFrom]
  · exact notStar
  · exact notAny
  · exact notSet

theorem tokensFrom_plain {text : List Char} (plain : ∀ c ∈ text, isSign c = false) :
    tokensFrom 0 text = text.map .char := by
  induction text with
  | nil => rfl
  | cons c text ih =>
    obtain ⟨here, later⟩ := List.forall_mem_cons.mp plain
    rw [tokensFrom_of_not_isSign here, ih later, List.map_cons]

theorem matches_char_iff {c : Char} {rest : List Token} {text : List Char} :
    Matches (.char c :: rest) text ↔ ∃ later, text = c :: later ∧ Matches rest later := by
  constructor
  · intro whole
    cases whole with
    | one takes later => exact ⟨_, by rw [beq_iff_eq.mp takes], later⟩
  · rintro ⟨later, rfl, matched⟩
    exact .one (beq_self_eq_true c) matched

theorem matches_map_char_iff {expected text : List Char} :
    Matches (expected.map .char) text ↔ text = expected := by
  induction expected generalizing text with
  | nil =>
    constructor
    · rintro ⟨⟩
      rfl
    · rintro rfl
      exact .nil
  | cons c expected ih =>
    rw [List.map_cons, matches_char_iff]
    constructor
    · rintro ⟨later, rfl, matched⟩
      rw [ih.mp matched]
    · rintro rfl
      exact ⟨expected, rfl, ih.mpr rfl⟩

/-- **A pattern without signs accepts itself and nothing else.** -/
theorem accepts_ofText_plain {pattern : String} (plain : ∀ c ∈ pattern.toList, isSign c = false)
    (text : String) : accepts (ofText pattern) text = true ↔ text = pattern := by
  rw [accepts_iff_matches, ofText, tokensFrom_plain plain, matches_map_char_iff, String.toList_inj]

/-- **A pattern that begins with a character that is no sign accepts only what begins with it.** -/
theorem exists_cons_of_accepts {pattern text : String} {c : Char} {rest : List Char}
    (plain : isSign c = false) (begins : pattern.toList = c :: rest)
    (accepted : accepts (ofText pattern) text = true) : ∃ later, text.toList = c :: later := by
  rw [accepts_iff_matches, ofText, begins, tokensFrom_of_not_isSign plain, matches_char_iff]
    at accepted
  obtain ⟨later, same, -⟩ := accepted
  exact ⟨later, same⟩

end CodeBrief.Glob
