/-
**ASCII letters in either case.**

What a test says of a character beyond the ASCII letters does not depend on the case of letters, and
what it says of a letter mostly neither (`apply_toLower`). So texts that differ only in the case of
ASCII letters have one lower-case form and mention the same words.

There are two ways to look for a word whatever its case: in the lower-case form of a text, and letter
by letter. They do not find the same, because the long s and the dotless i are taken for letters only
in the second way. What is found in the first way is found in the second one.

* `lower_map_toLower`, `mentions_map_toLower` — the case of letters is of no concern.
* `foldsTo_of_lowerChar` — what has a letter as its lower-case form is that letter in some case; the
  table of moves comes to ASCII with the Kelvin sign only (`movesBeyond_lowerRuns`).
* `mentions_of_occursIn_lower` — a word in the lower-case form of a text is mentioned in the text.
-/

import CodeBrief.Proofs.Text.Occurrences
import CodeBrief.Text.Fold
import CodeBrief.Text.Lower
import Mathlib.Data.List.Basic

namespace CodeBrief.Text

/-! ### One character -/

/-- A capital is one of twenty-six, as its small letter is. -/
theorem exists_of_isUpper {c : Char} (upper : c.isUpper = true) :
    ∃ n < 26, c = Char.ofNat (65 + n) ∧ c.toLower = Char.ofNat (97 + n) := by
  have range : 65 ≤ c.toNat ∧ c.toNat ≤ 90 := by
    have bounds : 'A'.val ≤ c.val ∧ c.val ≤ 'Z'.val := of_decide_eq_true upper
    exact ⟨UInt32.le_iff_toNat_le.mp bounds.1, UInt32.le_iff_toNat_le.mp bounds.2⟩
  have letters : ∀ n < 26, (Char.ofNat (65 + n)).toLower = Char.ofNat (97 + n) := by decide
  refine ⟨c.toNat - 65, by omega, ?_, ?_⟩
  · rw [Nat.add_sub_cancel' range.1, Char.ofNat_toNat]
  · have small := letters (c.toNat - 65) (by omega)
    rwa [Nat.add_sub_cancel' range.1, Char.ofNat_toNat] at small

theorem toLower_of_not_isUpper {c : Char} (other : c.isUpper = false) : c.toLower = c :=
  dif_neg (of_decide_eq_false other)

/-- **What holds alike of every capital and its small letter** does not depend on case. -/
theorem apply_toLower {β : Type} {f : Char → β}
    (letters : ∀ n < 26, f (Char.ofNat (97 + n)) = f (Char.ofNat (65 + n))) (c : Char) :
    f c.toLower = f c := by
  by_cases upper : c.isUpper = true
  · obtain ⟨n, small, isCapital, isSmall⟩ := exists_of_isUpper upper
    rw [isSmall, isCapital]
    exact letters n small
  · rw [toLower_of_not_isUpper (eq_false_of_ne_true upper)]

theorem isAsciiWord_toLower (c : Char) : isAsciiWord c.toLower = isAsciiWord c :=
  apply_toLower (by decide) c

theorem lowerChar_toLower (c : Char) : lowerChar c.toLower = lowerChar c :=
  apply_toLower (by decide) c

theorem toLower_toLower (c : Char) : c.toLower.toLower = c.toLower :=
  apply_toLower (f := Char.toLower) (by decide) c

/-- A character beyond ASCII is no letter in either case. -/
theorem toLower_eq_iff {wide : Char} (beyond : 128 ≤ wide.toNat) (c : Char) :
    c.toLower = wide ↔ c = wide := by
  have ascii : ∀ n < 26, (Char.ofNat (97 + n)).toNat < 128 ∧ (Char.ofNat (65 + n)).toNat < 128 := by
    decide
  refine iff_of_eq (apply_toLower (f := (· = wide)) (fun n small => ?_) c)
  have other : ∀ letter : Char, letter.toNat < 128 → (letter = wide) = False := by
    intro letter low
    refine eq_false ?_
    rintro rfl
    omega
  rw [other _ (ascii n small).1, other _ (ascii n small).2]

theorem foldsTo_toLower (letter c : Char) : foldsTo letter c.toLower = foldsTo letter c := by
  have kelvin : (c.toLower.toNat == 0x212A) = (c.toNat == 0x212A) :=
    apply_toLower (f := fun c => c.toNat == 0x212A) (by decide) c
  have wide : ∀ d : Char, 128 ≤ d.toNat → (c.toLower == d) = (c == d) := by
    intro d beyond
    rw [Bool.eq_iff_iff, beq_iff_eq, beq_iff_eq]
    exact toLower_eq_iff beyond c
  unfold foldsTo
  rw [toLower_toLower, kelvin, wide 'ı' (by decide), wide 'İ' (by decide), wide 'ſ' (by decide)]

/-! ### Letters around a capital sigma -/

/-- Whether no code point from `low` to `high` lies in a range. -/
def avoids (low high : Nat) (range : Nat × Nat) : Bool :=
  Nat.blt range.2 low || Nat.blt high range.1

theorem not_inRanges_of_avoids {ranges : List (Nat × Nat)} {low high n : Nat}
    (apart : ranges.all (avoids low high) = true) (least : low ≤ n) (greatest : n ≤ high) :
    inRanges ranges n = false := by
  refine List.any_eq_false.mpr fun range member inside => ?_
  have avoided := List.all_eq_true.mp apart range member
  simp only [avoids, Bool.or_eq_true, Nat.blt_eq] at avoided
  simp only [Bool.and_eq_true, decide_eq_true_eq] at inside
  omega

theorem avoids_caseIgnorableRanges :
    caseIgnorableRanges.all (avoids 65 90) = true ∧
      caseIgnorableRanges.all (avoids 97 122) = true := by
  decide +kernel

/-- No letter is skipped when the neighbours of a capital sigma are looked for. -/
theorem isCaseIgnorable_toLower (c : Char) : isCaseIgnorable c.toLower = isCaseIgnorable c := by
  refine apply_toLower (fun n small => ?_) c
  have codes : ∀ n < 26, (Char.ofNat (97 + n)).toNat = 97 + n ∧
      (Char.ofNat (65 + n)).toNat = 65 + n := by decide
  unfold isCaseIgnorable
  rw [(codes n small).1, (codes n small).2,
    not_inRanges_of_avoids avoids_caseIgnorableRanges.2 (by omega) (by omega),
    not_inRanges_of_avoids avoids_caseIgnorableRanges.1 (by omega) (by omega)]

theorem isCased_toLower (c : Char) : isCased c.toLower = isCased c :=
  apply_toLower (by decide +kernel) c

/-! ### Texts -/

theorem startsCased_map_toLower (text : List Char) :
    startsCased (text.map Char.toLower) = startsCased text := by
  unfold startsCased
  have skipped : isCaseIgnorable ∘ Char.toLower = isCaseIgnorable :=
    funext isCaseIgnorable_toLower
  have cased : isCased ∘ Char.toLower = isCased := funext isCased_toLower
  rw [List.dropWhile_map, skipped, List.head?_map, Option.map_map, cased]

theorem lowerFrom_map_toLower (before text : List Char) :
    lowerFrom (before.map Char.toLower) (text.map Char.toLower) = lowerFrom before text := by
  induction text generalizing before with
  | nil => rfl
  | cons c rest ih =>
    have further := ih (c :: before)
    rw [List.map_cons] at further
    have sigma : c.toLower = 'Σ' ↔ c = 'Σ' := toLower_eq_iff (by decide) c
    have dotted : c.toLower = 'İ' ↔ c = 'İ' := toLower_eq_iff (by decide) c
    rw [List.map_cons, lowerFrom, lowerFrom, further, lowerChar_toLower, endsWord, endsWord,
      startsCased_map_toLower, startsCased_map_toLower]
    simp only [sigma, dotted]

/-- **The lower-case form does not depend on the case of letters.** -/
theorem lower_map_toLower (text : List Char) : lower (text.map Char.toLower) = lower text :=
  lowerFrom_map_toLower [] text

theorem foldPrefix_map_toLower (word text : List Char) :
    foldPrefix word (text.map Char.toLower) = foldPrefix word text := by
  induction word generalizing text with
  | nil => rfl
  | cons letter word ih =>
    cases text with
    | nil => rfl
    | cons c text => rw [List.map_cons, foldPrefix, foldPrefix, foldsTo_toLower, ih]

/-- **What a text mentions does not depend on the case of letters.** -/
theorem mentions_map_toLower (word text : List Char) :
    mentions word (text.map Char.toLower) = mentions word text := by
  induction text with
  | nil => rfl
  | cons c text ih =>
    rw [List.map_cons, mentions, mentions, ih, ← List.map_cons, foldPrefix_map_toLower]

/-! ### The two ways to look for a word -/

/-- Whether `run` moves nothing into ASCII, or the Kelvin sign to the letter k and nothing else. -/
def movesBeyond (run : Nat × Nat × Nat × Int) : Bool :=
  let low := (run.1 + run.2.2.2).toNat
  Nat.ble 128 low || (Nat.beq low 107 && Nat.beq run.1 0x212A && Nat.beq run.2.1 0x212A)

theorem movesBeyond_lowerRuns : lowerRuns.all movesBeyond = true := by
  decide +kernel

theorem moved_of_mem {run : Nat × Nat × Nat × Int} (listed : run ∈ lowerRuns) {n : Nat}
    (first : run.1 ≤ n) (last : n ≤ run.2.1) :
    128 ≤ (n + run.2.2.2).toNat ∨ (n + run.2.2.2).toNat = 107 ∧ n = 0x212A := by
  have beyond := List.all_eq_true.mp movesBeyond_lowerRuns run listed
  simp only [movesBeyond, Bool.or_eq_true, Bool.and_eq_true, Nat.ble_eq, Nat.beq_eq] at beyond
  omega

/-- What is no character is written as the null character. -/
theorem toNat_ofNat_of_pos {n : Nat} (positive : 0 < (Char.ofNat n).toNat) :
    (Char.ofNat n).toNat = n := by
  by_cases valid : n.isValidChar
  · rw [Char.ofNat, dif_pos valid]
    rfl
  · rw [Char.ofNat, dif_neg valid] at positive
    exact absurd positive (by decide)

/-- **What has a small letter as its lower-case form** is that letter in some case. -/
theorem foldsTo_of_lowerChar {letter c : Char} (small : letter.isLower = true)
    (form : lowerChar c = letter) : foldsTo letter c = true := by
  have range : 97 ≤ letter.toNat ∧ letter.toNat ≤ 122 := by
    obtain ⟨low, high⟩ := (Bool.and_eq_true _ _).mp small
    exact ⟨UInt32.le_iff_toNat_le.mp (of_decide_eq_true low),
      UInt32.le_iff_toNat_le.mp (of_decide_eq_true high)⟩
  by_cases ascii : c.toNat < 128
  · rw [lowerChar, if_pos ascii] at form
    simp [foldsTo, form]
  · rw [lowerChar, if_neg ascii] at form
    cases moved : shiftOf? lowerRuns c.toNat with
    | none =>
      rw [moved] at form
      dsimp only at form
      rw [form] at ascii
      omega
    | some shift =>
      rw [moved] at form
      dsimp only at form
      have code : letter.toNat = (c.toNat + shift).toNat := by
        rw [← form]
        exact toNat_ofNat_of_pos (by rw [form]; omega)
      obtain ⟨run, found, rfl⟩ := Option.map_eq_some_iff.mp moved
      have inside := List.find?_some found
      simp only [Bool.and_eq_true, decide_eq_true_eq] at inside
      rcases moved_of_mem (List.mem_of_find?_eq_some found) inside.1.1 inside.1.2 with
        beyond | ⟨isK, kelvin⟩
      · exact absurd (code ▸ range.2) (by show ¬ (c.toNat + run.2.2.2).toNat ≤ 122; omega)
      · have letterK : letter = 'k' := Char.toNat_inj.mp (code.trans isK)
        simp [foldsTo, letterK, kelvin]

/-- A word that the lower-case form of a text begins with is what the text begins with, whatever the
case. The combining dot behind the form of a capital I with a dot is part of no word. -/
theorem foldPrefix_of_prefix_lower {word : List Char} (small : ∀ c ∈ word, c.isLower = true)
    {before text : List Char} (isPrefix : word <+: lowerFrom before text) :
    foldPrefix word text = true := by
  induction text generalizing word before with
  | nil =>
    rw [lowerFrom, List.prefix_nil] at isPrefix
    rw [isPrefix]
    rfl
  | cons c text ih =>
    cases word with
    | nil => rfl
    | cons letter word =>
      obtain ⟨isSmall, others⟩ := List.forall_mem_cons.mp small
      rw [lowerFrom] at isPrefix
      rw [foldPrefix, Bool.and_eq_true]
      split at isPrefix
      · obtain ⟨rfl, -⟩ := List.cons_prefix_cons.mp isPrefix
        split at isSmall <;> exact absurd isSmall (by decide)
      · split at isPrefix
        · rename_i dotted
          obtain ⟨rfl, further⟩ := List.cons_prefix_cons.mp isPrefix
          subst dotted
          refine ⟨by decide, ?_⟩
          cases word with
          | nil => rfl
          | cons next word =>
            obtain ⟨rfl, -⟩ := List.cons_prefix_cons.mp further
            exact absurd (others _ List.mem_cons_self) (by decide)
        · obtain ⟨rfl, further⟩ := List.cons_prefix_cons.mp isPrefix
          exact ⟨foldsTo_of_lowerChar isSmall rfl, ih others further⟩

/-- A word that occurs in the lower-case form of a text stands at its head or in what the first
character does not make. -/
theorem infix_lower_cons {word : List Char} (small : ∀ c ∈ word, c.isLower = true)
    (nonempty : word ≠ []) {before text : List Char} {c : Char}
    (inside : word <:+: lowerFrom before (c :: text)) :
    word <+: lowerFrom before (c :: text) ∨ word <:+: lowerFrom (c :: before) text := by
  rw [lowerFrom] at inside ⊢
  split at inside
  · rename_i sigma
    rw [if_pos sigma]
    exact List.infix_cons_iff.mp inside
  · rename_i plain
    rw [if_neg plain]
    split at inside
    · rename_i dotted
      rw [if_pos dotted]
      refine (List.infix_cons_iff.mp inside).imp_right fun later => ?_
      refine (List.infix_cons_iff.mp later).resolve_left fun mark => ?_
      -- No word begins with the combining dot.
      obtain ⟨letter, word, rfl⟩ := List.exists_cons_of_ne_nil nonempty
      obtain ⟨rfl, -⟩ := List.cons_prefix_cons.mp mark
      exact absurd (small _ List.mem_cons_self) (by decide)
    · rename_i undotted
      rw [if_neg undotted]
      exact List.infix_cons_iff.mp inside

theorem mentions_of_infix_lower {word : List Char} (small : ∀ c ∈ word, c.isLower = true)
    (nonempty : word ≠ []) {before text : List Char} (inside : word <:+: lowerFrom before text) :
    mentions word text = true := by
  induction text generalizing before with
  | nil =>
    rw [lowerFrom, List.infix_nil] at inside
    exact absurd inside nonempty
  | cons c text ih =>
    rw [mentions, Bool.or_eq_true]
    exact (infix_lower_cons small nonempty inside).imp (foldPrefix_of_prefix_lower small) ih

/-- **A word that occurs in the lower-case form of a text** is mentioned in the text. -/
theorem mentions_of_occursIn_lower {word : List Char} (small : ∀ c ∈ word, c.isLower = true)
    (nonempty : word ≠ []) {text : List Char} (occurs : occursIn word (lower text) = true) :
    mentions word text = true :=
  mentions_of_infix_lower small nonempty (occursIn_iff.mp occurs)

end CodeBrief.Text
