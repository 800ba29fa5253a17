/-
**Lower-casing, piece by piece.**

The lower-case form of a capital sigma depends on what stands around it, so that the form of a text
is not put together from those of its parts. Where two parts meet at a character like a line break,
which is neither cased nor skipped, it is. What has been lower-cased stays as it is.

* `lower_append_cons` — a text that is divided at such a character is lower-cased part by part.
* `isLowered_lowerChar` — the one-character forms are their own forms. The table of moves is looked
  through once, run against run (`isSettled_lowerRuns`).
* `lower_eq_self_of_subset` — what is made of characters of a lower-case form is its own form.
-/

import CodeBrief.Text.Lower

namespace CodeBrief.Text

/-! ### Dividing a text -/

/-- A capital sigma next to `c` has the form that it has at the end of a text. -/
def EndsContext (c : Char) : Prop :=
  isCaseIgnorable c = false ∧ isCased c = false

/-- A character that is its own form wherever it stands. -/
def IsLowered (c : Char) : Prop :=
  c ≠ 'Σ' ∧ c ≠ 'İ' ∧ lowerChar c = c

instance (c : Char) : Decidable (EndsContext c) := inferInstanceAs (Decidable (_ ∧ _))

instance (c : Char) : Decidable (IsLowered c) := inferInstanceAs (Decidable (_ ∧ _ ∧ _))

section Dividing

variable {c : Char} (ends : EndsContext c)
include ends

theorem startsCased_append_cons (text rest : List Char) :
    startsCased (text ++ c :: rest) = startsCased text := by
  induction text with
  | nil =>
    unfold startsCased
    rw [List.nil_append, List.dropWhile_cons_of_neg (by simp [ends.1])]
    exact ends.2
  | cons d text ih =>
    unfold startsCased at ih ⊢
    rw [List.cons_append, List.dropWhile_cons, List.dropWhile_cons]
    split
    · exact ih
    · rfl

/-- What stands before the character is of no concern to what follows. -/
theorem lowerFrom_append_cons_before (before rest text : List Char) :
    lowerFrom (before ++ c :: rest) text = lowerFrom before text := by
  induction text generalizing before with
  | nil => rfl
  | cons d text ih =>
    rw [lowerFrom, lowerFrom, endsWord, endsWord, startsCased_append_cons ends,
      ← List.cons_append, ih]

theorem lowerFrom_append_cons (lowered : IsLowered c) (before left right : List Char) :
    lowerFrom before (left ++ c :: right) = lowerFrom before left ++ c :: lower right := by
  induction left generalizing before with
  | nil =>
    have after : lowerFrom (c :: before) right = lower right :=
      lowerFrom_append_cons_before ends [] before right
    rw [List.nil_append, lowerFrom.eq_2, if_neg lowered.1, if_neg lowered.2.1, lowered.2.2, after]
    rfl
  | cons d left ih =>
    rw [List.cons_append, lowerFrom, lowerFrom, endsWord, endsWord, startsCased_append_cons ends,
      ih, List.append_assoc]

/-- **A text that is divided at such a character is lower-cased part by part.** -/
theorem lower_append_cons (lowered : IsLowered c) (left right : List Char) :
    lower (left ++ c :: right) = lower left ++ c :: lower right :=
  lowerFrom_append_cons ends lowered [] left right

end Dividing

/-! ### The table of moves -/

/-- Whether none of the code points from `low` to `high`, `step` apart, is moved by `run`: they lie
above or below it, or they are all odd where it has the even ones, or the other way round. -/
def misses (low high step : Nat) (run : Nat × Nat × Nat × Int) : Bool :=
  Nat.blt high run.1 || Nat.blt run.2.1 low ||
    (Nat.beq run.2.2.1 2 && (Nat.beq step 2 || Nat.beq low high) && Nat.beq ((low + run.1) % 2) 1)

/-- Whether what `run` moves comes to where no run of the table moves it again, neither to the
capital I with a dot nor, but for the letter k, into ASCII. -/
def isSettled (run : Nat × Nat × Nat × Int) : Bool :=
  let low := (run.1 + run.2.2.2).toNat
  let high := (run.2.1 + run.2.2.2).toNat
  decide (0 ≤ run.1 + run.2.2.2) && (Nat.ble 128 low || (Nat.beq low 107 && Nat.beq high 107)) &&
    ((0x130, 0x130, 2, 0) :: lowerRuns).all (misses low high run.2.2.1)

theorem isSettled_lowerRuns : lowerRuns.all isSettled = true := by
  decide +kernel

/-- A code point between the ends of what is missed is not moved. -/
theorem not_moved_of_misses {low high step n : Nat} {run : Nat × Nat × Nat × Int}
    (missed : misses low high step run = true) (least : low ≤ n) (greatest : n ≤ high)
    (spaced : (n - low) % step = 0) :
    (run.1 ≤ n && n ≤ run.2.1 && (n - run.1) % run.2.2.1 == 0) = false := by
  refine Bool.eq_false_iff.mpr fun moved => ?_
  simp only [Bool.and_eq_true, decide_eq_true_eq, beq_iff_eq] at moved
  obtain ⟨⟨first, last⟩, member⟩ := moved
  simp only [misses, Bool.or_eq_true, Bool.and_eq_true, Nat.blt_eq, Nat.beq_eq] at missed
  rcases missed with (above | below) | ⟨⟨two, even⟩, odd⟩
  · omega
  · omega
  · rw [two] at member
    rcases even with even | single
    · rw [even] at spaced
      omega
    · omega

/-- What a run moves stays where it comes to. -/
theorem settled_of_mem {run : Nat × Nat × Nat × Int} (listed : run ∈ lowerRuns) {n : Nat}
    (first : run.1 ≤ n) (last : n ≤ run.2.1) (spaced : (n - run.1) % run.2.2.1 = 0) :
    shiftOf? lowerRuns (n + run.2.2.2).toNat = none ∧ (n + run.2.2.2).toNat ≠ 0x130 ∧
      (128 ≤ (n + run.2.2.2).toNat ∨ (n + run.2.2.2).toNat = 107) := by
  have settled := List.all_eq_true.mp isSettled_lowerRuns run listed
  simp only [isSettled, Bool.and_eq_true, Bool.or_eq_true, decide_eq_true_eq, Nat.ble_eq,
    Nat.beq_eq, List.all_cons, List.all_eq_true] at settled
  obtain ⟨⟨whole, low⟩, dotted, missed⟩ := settled
  have least : (run.1 + run.2.2.2).toNat ≤ (n + run.2.2.2).toNat := by omega
  have greatest : (n + run.2.2.2).toNat ≤ (run.2.1 + run.2.2.2).toNat := by omega
  have apart : ((n + run.2.2.2).toNat - (run.1 + run.2.2.2).toNat) % run.2.2.1 = 0 := by
    rw [show (n + run.2.2.2).toNat - (run.1 + run.2.2.2).toNat = n - run.1 by omega]
    exact spaced
  refine ⟨?_, ?_, ?_⟩
  · rw [shiftOf?, Option.map_eq_none_iff, List.find?_eq_none]
    intro other member
    exact Bool.eq_false_iff.mp (not_moved_of_misses (missed other member) least greatest apart)
  · intro same
    have unmoved := not_moved_of_misses dotted least greatest apart
    rw [same] at unmoved
    exact absurd unmoved (by decide)
  · omega

/-! ### Lower-case characters -/

theorem isLowered_lowerChar_ascii : ∀ n < 128, IsLowered (lowerChar (Char.ofNat n)) := by
  decide +kernel

theorem shiftOf?_sigma : shiftOf? lowerRuns 'Σ'.toNat ≠ none := by
  decide +kernel

/-- A character beyond ASCII that is not moved is its own form. -/
theorem isLowered_of_shiftOf? {c : Char} (beyond : ¬ c.toNat < 128)
    (stays : shiftOf? lowerRuns c.toNat = none) (undotted : c ≠ 'İ') : IsLowered c := by
  refine ⟨?_, undotted, ?_⟩
  · rintro rfl
    exact shiftOf?_sigma stays
  · rw [lowerChar, if_neg beyond, stays]

theorem isLowered_ofNat {n : Nat} (stays : shiftOf? lowerRuns n = none) (undotted : n ≠ 0x130)
    (beyond : 128 ≤ n ∨ n = 107) : IsLowered (Char.ofNat n) := by
  by_cases valid : n.isValidChar
  · have code : (Char.ofNat n).toNat = n := by
      rw [Char.ofNat, dif_pos valid]
      rfl
    rcases beyond with beyond | rfl
    · refine isLowered_of_shiftOf? ?_ ?_ fun same => undotted ?_
      · rw [code]
        omega
      · rw [code]
        exact stays
      · rw [← code, same]
        rfl
    · exact isLowered_lowerChar_ascii 75 (by decide)
  · -- What is no character is written as the null character.
    rw [Char.ofNat, dif_neg valid]
    exact isLowered_lowerChar_ascii 0 (by decide)

/-- **The one-character forms are their own forms.** -/
theorem isLowered_lowerChar {c : Char} (undotted : c ≠ 'İ') : IsLowered (lowerChar c) := by
  by_cases ascii : c.toNat < 128
  · have form := isLowered_lowerChar_ascii c.toNat ascii
    rwa [Char.ofNat_toNat] at form
  · cases moved : shiftOf? lowerRuns c.toNat with
    | none =>
      have form := isLowered_of_shiftOf? ascii moved undotted
      rwa [form.2.2]
    | some shift =>
      obtain ⟨run, found, rfl⟩ := Option.map_eq_some_iff.mp moved
      have inside := List.find?_some found
      simp only [Bool.and_eq_true, decide_eq_true_eq, beq_iff_eq] at inside
      obtain ⟨⟨first, last⟩, spaced⟩ := inside
      obtain ⟨stays, dotless, beyond⟩ :=
        settled_of_mem (List.mem_of_find?_eq_some found) first last spaced
      have form : lowerChar c = Char.ofNat (c.toNat + run.2.2.2).toNat := by
        rw [lowerChar, if_neg ascii, moved]
      rw [form]
      exact isLowered_ofNat stays dotless beyond

/-- **A lower-case form consists of characters that are their own forms.** -/
theorem isLowered_of_mem_lowerFrom {before text : List Char} {c : Char}
    (member : c ∈ lowerFrom before text) : IsLowered c := by
  induction text generalizing before with
  | nil => cases member
  | cons d text ih =>
    rw [lowerFrom, List.mem_append] at member
    rcases member with here | later
    · split at here
      · -- A sigma, final or not.
        split at here <;> rw [List.mem_singleton.mp here] <;> decide +kernel
      · split at here
        · rcases List.mem_cons.mp here with rfl | mark
          · decide +kernel
          · rw [List.mem_singleton.mp mark]
            decide +kernel
        · rename_i undotted
          rw [List.mem_singleton.mp here]
          exact isLowered_lowerChar undotted
    · exact ih later

theorem lowerFrom_eq_self {text : List Char} (lowered : ∀ c ∈ text, IsLowered c)
    (before : List Char) : lowerFrom before text = text := by
  induction text generalizing before with
  | nil => rfl
  | cons c text ih =>
    obtain ⟨⟨notSigma, undotted, same⟩, rest⟩ := List.forall_mem_cons.mp lowered
    rw [lowerFrom, if_neg notSigma, if_neg undotted, same, ih rest, List.singleton_append]

/-- **What is made of characters of a lower-case form** is its own form. -/
theorem lower_eq_self_of_subset {text part : List Char} (subset : part ⊆ lower text) :
    lower part = part :=
  lowerFrom_eq_self (fun _ member => isLowered_of_mem_lowerFrom (subset member)) []

end CodeBrief.Text
