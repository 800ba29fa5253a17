/-
**Replacing, match by match.**

A text in which every match of a pattern is replaced is put together from left to right: where the
pattern matches, the replacement stands for what it took; where it does not, one character is passed
on. For patterns that take something whenever they match, this gives an induction along the scan.

* `replaceAll_matched`, `replaceAll_passed` — the two steps of the scan.
* `replaceAll_induction` — what holds of the empty text and is kept by both steps holds of every
  text and its rewriting.
* `filter_replaceAll` — characters that the replacement and every match have alike stay as they are.
* `replaceAll_eq_self` — a text stays as it is if every match in it reads as the replacement.
* `length_replaceAll_nil_lt` — a text with a match in it gets shorter if matches are left out.
* `allMatches_matched`, `allMatches_passed` — the matches along the same steps;
  `allMatches_induction` — the induction along the scan for what holds of them.
* `IsFirm` — a reader does not look at what follows what it takes. For such a pattern a text falls
  into what stands before a match and what stands after it (`replaceAll_split`).
-/

import CodeBrief.Proofs.Pattern.Matches

namespace CodeBrief.Pattern

variable {reader : Reader Unit} {replacement : List Char}

/-- To skip characters is to begin behind them. -/
theorem replaceFrom_eq_drop (skip : Nat) (text : List Char) :
    replaceFrom reader replacement skip text = replaceAll reader replacement (text.drop skip) := by
  induction text generalizing skip with
  | nil => simp [replaceAll, replaceFrom]
  | cons c rest ih =>
    cases skip with
    | zero => rfl
    | succ skip => exact ih skip

/-- **Where the pattern does not match,** one character is passed on. -/
theorem replaceAll_passed {c : Char} {rest : List Char} (unmatched : reader (c :: rest) = none) :
    replaceAll reader replacement (c :: rest) = c :: replaceAll reader replacement rest := by
  rw [replaceAll, replaceFrom, unmatched]
  rfl

section TakesSome

variable (takes : Takes reader (· ≠ []))
include takes

/-- **Where the pattern matches,** the replacement stands for what it took. -/
theorem replaceAll_matched {text after : List Char} {value : Unit}
    (matched : reader text = some (value, after)) :
    replaceAll reader replacement text = replacement ++ replaceAll reader replacement after := by
  obtain ⟨taken, rfl, long⟩ := takes text value after matched
  obtain ⟨c, taken, rfl⟩ := List.exists_cons_of_ne_nil long
  rw [List.cons_append] at matched ⊢
  rw [replaceAll, replaceFrom, matched]
  dsimp only
  rw [replaceFrom_eq_drop, List.length_append, Nat.add_sub_cancel, List.drop_left]

/-- **Induction along the scan.** -/
theorem replaceAll_induction (replacement : List Char) {motive : List Char → List Char → Prop}
    (nil : motive [] [])
    (matched : ∀ taken after, taken ≠ [] → reader (taken ++ after) = some ((), after) →
      motive after (replaceAll reader replacement after) →
      motive (taken ++ after) (replacement ++ replaceAll reader replacement after))
    (passed : ∀ c rest, reader (c :: rest) = none →
      motive rest (replaceAll reader replacement rest) →
      motive (c :: rest) (c :: replaceAll reader replacement rest))
    (text : List Char) : motive text (replaceAll reader replacement text) := by
  -- A match can be of any length, so the induction is on the length of what is left.
  induction length : text.length using Nat.strong_induction_on generalizing text with
  | _ length' ih =>
    subst length
    cases text with
    | nil => exact nil
    | cons c rest =>
      cases read : reader (c :: rest) with
      | none =>
        rw [replaceAll_passed read]
        exact passed c rest read (ih rest.length (Nat.lt_succ_self _) rest rfl)
      | some result =>
        obtain ⟨⟨⟩, after⟩ := result
        rw [replaceAll_matched takes read]
        obtain ⟨taken, same, long⟩ := takes _ _ _ read
        rw [same] at read ⊢
        have shorter : after.length < (taken ++ after).length := by
          have := List.length_pos_of_ne_nil long
          rw [List.length_append]
          omega
        rw [same] at ih
        exact matched taken after long read (ih after.length shorter after rfl)

/-- A text stays as it is if every match in it reads as the replacement. -/
theorem replaceAll_eq_self {text : List Char}
    (same : ∀ back after, back <:+ text → reader back = some ((), after) →
      back = replacement ++ after) :
    replaceAll reader replacement text = text := by
  refine replaceAll_induction takes replacement
    (motive := fun text left => (∀ back after, back <:+ text → reader back = some ((), after) →
      back = replacement ++ after) → left = text) (fun _ => rfl) ?_ ?_ text same
  · intro taken after _ read ih same
    rw [ih fun back after' suffix => same back after' (suffix.trans (List.suffix_append _ _))]
    exact (same _ _ (List.suffix_refl _) read).symm
  · intro c rest _ ih same
    rw [ih fun back after suffix => same back after (suffix.trans (List.suffix_cons c rest))]

/-- What is left of a text without its matches is no longer than the text. -/
theorem length_replaceAll_nil_le (text : List Char) :
    (replaceAll reader [] text).length ≤ text.length := by
  refine replaceAll_induction takes [] (motive := fun text left => left.length ≤ text.length)
    (Nat.le_refl _) ?_ ?_ text
  · intro taken after _ _ ih
    rw [List.nil_append, List.length_append]
    exact ih.trans (Nat.le_add_left _ _)
  · intro c rest _ ih
    exact Nat.succ_le_succ ih

/-- **A text that has a match in it gets shorter** without its matches. -/
theorem length_replaceAll_nil_lt {text back after : List Char} (suffix : back <:+ text)
    (read : reader back = some ((), after)) : (replaceAll reader [] text).length < text.length := by
  refine replaceAll_induction takes []
    (motive := fun text left => back <:+ text → left.length < text.length) ?_ ?_ ?_ text suffix
  · intro suffix
    obtain ⟨taken, same, long⟩ := takes _ _ _ read
    rw [List.suffix_nil] at suffix
    rw [suffix, eq_comm, List.append_eq_nil_iff] at same
    exact absurd same.1 long
  · intro taken after' long _ _ _
    have shorter := length_replaceAll_nil_le takes after'
    have positive := List.length_pos_of_ne_nil long
    rw [List.nil_append, List.length_append]
    omega
  · intro c rest unmatched ih suffix
    rcases List.suffix_cons_iff.mp suffix with same | inside
    · rw [same, unmatched] at read
      cases read
    · exact Nat.succ_lt_succ (ih inside)

end TakesSome

/-- **Characters that the replacement and every match have alike** stay as they are. -/
theorem filter_replaceAll {keeps : Char → Bool}
    (takes : Takes reader fun taken => taken ≠ [] ∧ taken.filter keeps = replacement.filter keeps)
    (text : List Char) :
    (replaceAll reader replacement text).filter keeps = text.filter keeps := by
  refine replaceAll_induction (takes.mono fun _ both => both.1) replacement
    (motive := fun text left => left.filter keeps = text.filter keeps) rfl ?_ ?_ text
  · intro taken after _ read ih
    obtain ⟨taken', same, -, alike⟩ := takes _ _ _ read
    rw [List.append_cancel_right same, List.filter_append, List.filter_append, alike, ih]
  · intro c rest _ ih
    rw [List.filter_cons, List.filter_cons, ih]

/-! ### The matches on the way -/

section Matches

variable {α : Type}

/-- A match seen from further ahead: some text stands in front. -/
def Match.behind (front : List Char) (hit : Match α) : Match α :=
  { hit with before := hit.before ++ front.reverse }

variable {reader : Reader α}

/-- The text before a place has no say in what is matched from there on. -/
theorem matchesFrom_eq_map (before : List Char) (skip : Nat) (text : List Char) :
    matchesFrom (fun _ => reader) before skip text =
      (matchesFrom (fun _ => reader) [] skip text).map (Match.behind before.reverse) := by
  induction text generalizing before skip with
  | nil => simp [matchesFrom]
  | cons c rest ih =>
    have further : ∀ skip, matchesFrom (fun _ => reader) (c :: before) skip rest =
        (matchesFrom (fun _ => reader) [c] skip rest).map (Match.behind before.reverse) := by
      intro skip
      rw [ih (c :: before), ih [c], List.map_map]
      refine List.map_congr_left fun hit _ => ?_
      simp [Match.behind]
    cases skip with
    | succ skip => exact further skip
    | zero =>
      simp only [matchesFrom]
      split
      · rw [List.map_cons, further]
        simp [Match.behind]
      · exact further 0

/-- To skip a text is to begin behind it. -/
theorem matchesFrom_skip (find : Finder α) (before taken after : List Char) :
    matchesFrom find before taken.length (taken ++ after) =
      matchesFrom find (taken.reverse ++ before) 0 after := by
  induction taken generalizing before with
  | nil => rfl
  | cons c taken ih =>
    rw [List.length_cons, List.cons_append, matchesFrom, ih]
    simp

/-- A match is followed by the matches behind what it took. -/
theorem matchesFrom_matched {find : Finder α} {before taken after : List Char} {value : α}
    (long : taken ≠ []) (matched : find before (taken ++ after) = some (value, after)) :
    matchesFrom find before 0 (taken ++ after) =
      ⟨before, value, after⟩ :: matchesFrom find (taken.reverse ++ before) 0 after := by
  obtain ⟨c, taken, rfl⟩ := List.exists_cons_of_ne_nil long
  rw [List.cons_append] at matched ⊢
  rw [matchesFrom, matched]
  dsimp only
  rw [List.length_append, Nat.add_sub_cancel, matchesFrom_skip]
  simp

/-- Where the pattern does not match, all matches come later. -/
theorem allMatches_passed {c : Char} {rest : List Char} (unmatched : reader (c :: rest) = none) :
    allMatches (fun _ => reader) (c :: rest) =
      (allMatches (fun _ => reader) rest).map (Match.behind [c]) := by
  rw [allMatches, matchesFrom, unmatched]
  exact matchesFrom_eq_map [c] 0 rest

/-- Where the pattern matches, the other matches come behind what it took. -/
theorem allMatches_matched {taken after : List Char} {value : α} (long : taken ≠ [])
    (matched : reader (taken ++ after) = some (value, after)) :
    allMatches (fun _ => reader) (taken ++ after) =
      ⟨[], value, after⟩ :: (allMatches (fun _ => reader) after).map (Match.behind taken) := by
  rw [allMatches, matchesFrom_matched long matched, List.append_nil, matchesFrom_eq_map,
    List.reverse_reverse]
  rfl

/-- **Induction along the scan**, for the matches. -/
theorem allMatches_induction (takes : Takes reader (· ≠ []))
    {motive : List Char → List (Match α) → Prop} (nil : motive [] [])
    (matched : ∀ taken after value, taken ≠ [] → reader (taken ++ after) = some (value, after) →
      motive after (allMatches (fun _ => reader) after) →
      motive (taken ++ after)
        (⟨[], value, after⟩ :: (allMatches (fun _ => reader) after).map (Match.behind taken)))
    (passed : ∀ c rest, reader (c :: rest) = none →
      motive rest (allMatches (fun _ => reader) rest) →
      motive (c :: rest) ((allMatches (fun _ => reader) rest).map (Match.behind [c])))
    (text : List Char) : motive text (allMatches (fun _ => reader) text) := by
  induction length : text.length using Nat.strong_induction_on generalizing text with
  | _ length' ih =>
    subst length
    cases text with
    | nil => exact nil
    | cons c rest =>
      cases read : reader (c :: rest) with
      | none =>
        rw [allMatches_passed read]
        exact passed c rest read (ih rest.length (Nat.lt_succ_self _) rest rfl)
      | some result =>
        obtain ⟨value, after⟩ := result
        obtain ⟨taken, same, long⟩ := takes _ _ _ read
        rw [same] at read ih ⊢
        rw [allMatches_matched long read]
        have shorter : after.length < (taken ++ after).length := by
          have := List.length_pos_of_ne_nil long
          rw [List.length_append]
          omega
        exact matched taken after value long read (ih after.length shorter after rfl)

end Matches

/-! ### Readers that do not look ahead -/

section Firm

variable {α β : Type}

/-- A reader takes the same whatever follows what it takes. -/
def IsFirm (reader : Reader α) : Prop :=
  ∀ taken after more value, reader (taken ++ after) = some (value, after) →
    reader (taken ++ more) = some (value, more)

theorem isFirm_literal (expected : String) : IsFirm (literal expected) := by
  intro taken after more value read
  have same := List.append_cancel_right (literal_eq_some.mp read)
  exact literal_eq_some.mpr (by rw [same])

theorem IsFirm.bind {first : Reader α} {second : α → Reader β} (takes : Takes first fun _ => True)
    (takes' : ∀ value, Takes (second value) fun _ => True) (firm : IsFirm first)
    (firm' : ∀ value, IsFirm (second value)) : IsFirm (first >>= second) := by
  intro taken after more value read
  obtain ⟨middle, rest, one, two⟩ := bind_eq_some.mp read
  obtain ⟨left, whole, -⟩ := takes _ _ _ one
  obtain ⟨right, rfl, -⟩ := takes' middle _ _ _ two
  -- What both take together is what the first one takes and then the second one.
  have parts : taken = left ++ right := by
    rw [← List.append_assoc] at whole
    exact List.append_cancel_right whole
  subst parts
  rw [List.append_assoc] at one ⊢
  exact bind_eq_some.mpr
    ⟨middle, right ++ more, firm _ _ _ _ one, firm' middle _ _ _ _ two⟩

/-- Where a reader that does not look ahead fails, it fails as well if the text is cut off at a
match further on. -/
theorem IsFirm.eq_none_before {reader : Reader α} (takes : Takes reader fun _ => True)
    (firm : IsFirm reader) {c : Char} {rest : List Char} (unread : reader (c :: rest) = none)
    {hit : Match α} (member : hit ∈ allMatches (fun _ => reader) rest) :
    reader (c :: hit.before.reverse) = none := by
  obtain ⟨more, whole, -⟩ := split_of_mem_matchesFrom member
  rw [List.reverse_nil, List.nil_append] at whole
  cases read : reader (c :: hit.before.reverse) with
  | none => rfl
  | some result =>
    obtain ⟨value, after⟩ := result
    obtain ⟨taken, same, -⟩ := takes _ _ _ read
    rw [same] at read
    rw [whole, ← List.cons_append, same, List.append_assoc,
      firm _ _ (after ++ more) _ read] at unread
    cases unread

/-- **A text falls into what stands before a match and what stands after it**, and both are
rewritten by themselves. -/
theorem replaceAll_split {reader : Reader Unit} {replacement text : List Char}
    (takes : Takes reader (· ≠ [])) (firm : IsFirm reader) {hit : Match Unit}
    (member : hit ∈ allMatches (fun _ => reader) text) :
    replaceAll reader replacement text = replaceAll reader replacement hit.before.reverse ++
      replacement ++ replaceAll reader replacement hit.after := by
  refine replaceAll_induction takes replacement
    (motive := fun text left => ∀ hit ∈ allMatches (fun _ => reader) text,
      left = replaceAll reader replacement hit.before.reverse ++ replacement ++
        replaceAll reader replacement hit.after) ?_ ?_ ?_ text hit member
  · intro hit member
    exact absurd member List.not_mem_nil
  · intro taken after long read ih hit member
    rw [allMatches_matched long read] at member
    rcases List.mem_cons.mp member with rfl | later
    · rfl
    · obtain ⟨hit, inside, rfl⟩ := List.mem_map.mp later
      have before : (hit.behind taken).before.reverse = taken ++ hit.before.reverse := by
        simp [Match.behind]
      have front : replaceAll reader replacement (taken ++ hit.before.reverse) =
          replacement ++ replaceAll reader replacement hit.before.reverse :=
        replaceAll_matched takes (firm _ _ _ _ read)
      rw [before, front, ih hit inside]
      simp [Match.behind]
  · intro c rest unread ih hit member
    rw [allMatches_passed unread] at member
    obtain ⟨hit, inside, rfl⟩ := List.mem_map.mp member
    have before : (hit.behind [c]).before.reverse = c :: hit.before.reverse := by
      simp [Match.behind]
    have unread' := firm.eq_none_before (takes.mono fun _ _ => trivial) unread inside
    rw [before, replaceAll_passed unread', ih hit inside]
    simp [Match.behind]

end Firm

end CodeBrief.Pattern
