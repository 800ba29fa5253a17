/-
**Where a pattern matches nowhere.**

A scan comes to the matches of a pattern one after another. What stands between two matches is
passed: the pattern is tried at each of its characters and reads nothing, whatever it would have to
take of what follows.

* `Passes` — a pattern matches nowhere in a text, with another text behind it.
* `matchesFrom_passed`, `found_passed`, `found_matched` — the two steps of a scan.
* `Passes.append`, `passes_cons` — texts put together.

There are three reasons for which a pattern passes a text.

* `passes_of_clash` — no end of the text agrees with the literal that the pattern begins with.
* `passes_of_keyword` — the pattern begins with a literal and a blank, and the text is a run without
  blanks, so that at most its end can be the literal; then what follows the run is read and fails.
* `passes_of_barrier` — the pattern has to come to some character behind others of some kind
  (`Meets`); the text has no such character and ends with one that is not of the kind.
-/

import CodeBrief.Proofs.Pattern.Reading
import CodeBrief.Proofs.Pattern.Rewriting
import CodeBrief.Proofs.Pattern.Segments
import Mathlib.Data.List.Infix

namespace CodeBrief.Pattern

/-- A pattern matches nowhere in `front` if `rest` follows. -/
def Passes {α : Type} (reader : Reader α) (front rest : List Char) : Prop :=
  ∀ back, back ≠ [] → back <:+ front → reader (back ++ rest) = none

section Passing

variable {α : Type} {reader : Reader α} {front back rest : List Char}

theorem passes_nil (reader : Reader α) (rest : List Char) : Passes reader [] rest :=
  fun _ nonempty suffix => absurd (List.suffix_nil.mp suffix) nonempty

theorem passes_cons {c : Char} :
    Passes reader (c :: front) rest ↔
      reader (c :: (front ++ rest)) = none ∧ Passes reader front rest := by
  constructor
  · intro passes
    refine ⟨passes (c :: front) (List.cons_ne_nil c front) List.suffix_rfl, ?_⟩
    exact fun back nonempty suffix => passes back nonempty (suffix.trans (List.suffix_cons c front))
  · rintro ⟨here, later⟩ back nonempty suffix
    rcases List.suffix_cons_iff.mp suffix with rfl | suffix
    · exact here
    · exact later back nonempty suffix

theorem Passes.append (passes : Passes reader front (back ++ rest))
    (passes' : Passes reader back rest) : Passes reader (front ++ back) rest := by
  induction front with
  | nil => exact passes'
  | cons c front ih =>
    obtain ⟨here, later⟩ := passes_cons.mp passes
    refine passes_cons.mpr ⟨?_, ih later⟩
    show reader (c :: (front ++ back ++ rest)) = none
    rw [List.append_assoc]
    exact here

/-! ### The steps of a scan -/

/-- **A scan goes on behind what is passed.** The pattern of the scan may look at the text before
its place, as long as it reads no more for that. -/
theorem matchesFrom_passed {find : Finder α}
    (weaker : ∀ before text, reader text = none → find before text = none)
    (passes : Passes reader front rest) (before : List Char) :
    matchesFrom find before 0 (front ++ rest) =
      matchesFrom find (front.reverse ++ before) 0 rest := by
  induction front generalizing before with
  | nil => rfl
  | cons c front ih =>
    obtain ⟨here, later⟩ := passes_cons.mp passes
    rw [List.cons_append, matchesFrom, weaker before _ here]
    dsimp only
    rw [ih later, List.reverse_cons, List.append_assoc, List.singleton_append]

theorem atWordStart_of_none {before text : List Char} (unread : reader text = none) :
    atWordStart reader before text = none := by
  unfold atWordStart
  split
  · exact unread
  · rfl

theorem found_passed (passes : Passes reader front rest) :
    found reader (front ++ rest) = found reader rest := by
  rw [found, allMatches, matchesFrom_passed (fun _ _ unread => unread) passes]
  exact map_value_matchesFrom _ _ _ _

theorem found_matched {value : α} (long : front ≠ [])
    (matched : reader (front ++ rest) = some (value, rest)) :
    found reader (front ++ rest) = value :: found reader rest := by
  rw [found, allMatches, matchesFrom_matched long matched, List.map_cons]
  exact congrArg (value :: ·) (map_value_matchesFrom _ _ _ _)

/-- **Texts one after another.** If a pattern finds at most one thing in each of them, whatever
follows, then it finds these things. -/
theorem found_flatMap {β : Type} {written : β → List Char} {own : β → Option α}
    (step : ∀ item rest, found reader (written item ++ rest) =
      (own item).toList ++ found reader rest) (items : List β) :
    found reader (items.flatMap written) = items.filterMap own := by
  induction items with
  | nil => rfl
  | cons item items ih =>
    rw [List.flatMap_cons, step, ih, List.filterMap_cons]
    cases own item <;> rfl

end Passing

/-! ### Literals that do not agree -/

/-- Whether two texts differ where both have a character. -/
def clashes : List Char → List Char → Bool
  | e :: expected, c :: text => c != e || clashes expected text
  | _, _ => false

theorem dropPrefix?_of_clashes {expected text : List Char} (clash : clashes expected text = true)
    (rest : List Char) : dropPrefix? expected (text ++ rest) = none := by
  induction expected generalizing text with
  | nil => cases clash
  | cons e expected ih =>
    cases text with
    | nil => cases clash
    | cons c text =>
      rw [List.cons_append, dropPrefix?]
      split
      · rename_i same
        refine ih ?_
        simpa [clashes, same] using clash
      · rfl

/-- **A pattern passes a text no end of which agrees with the literal** that it begins with. -/
theorem passes_of_clash {α : Type} {keyword : String} {next : Unit → Reader α} {piece : List Char}
    (clash : ∀ back ∈ piece.tails, back ≠ [] → clashes keyword.toList back = true)
    (rest : List Char) : Passes (literal keyword >>= next) piece rest := by
  intro back nonempty suffix
  refine bind_of_none ?_
  rw [literal, dropPrefix?_of_clashes (clash back ((List.mem_tails _ _).mpr suffix) nonempty)]
  rfl

/-! ### Keywords at the end of a run -/

/-- A literal that is read of a text, and has nothing of what follows it, is read within the
text. -/
theorem of_literal_append {keyword : String} {run after rest : List Char} {value : Unit}
    (apart : ∀ c ∈ after.head?, c ∉ keyword.toList)
    (read : literal keyword (run ++ after) = some (value, rest)) :
    ∃ left, run = keyword.toList ++ left ∧ rest = left ++ after := by
  have whole := literal_eq_some.mp read
  rcases List.append_eq_append_iff.mp whole with ⟨more, reaches, same⟩ | ⟨left, same, rest⟩
  · -- The literal would have to go on with what follows the text.
    cases more with
    | nil => exact ⟨[], by simpa using reaches.symm, by simpa using same.symm⟩
    | cons c more =>
      rw [same] at apart
      exact absurd (reaches ▸ by simp) (apart c rfl)
  · exact ⟨left, same, rest⟩

/-- **A keyword that needs a blank behind it is passed in a run without blanks** if what follows the
run fails as what comes behind the keyword. -/
theorem passes_of_keyword {α : Type} {keyword : String} {next : Reader α} {run after : List Char}
    (solid : ∀ c ∈ run, Text.isBlank c = false) (apart : ∀ c ∈ after.head?, c ∉ keyword.toList)
    (fails : (someBlanks >>= fun _ => next) after = none) :
    Passes (literal keyword >>= fun _ => someBlanks >>= fun _ => next) run after := by
  intro back _ suffix
  cases read : literal keyword (back ++ after) with
  | none => exact bind_of_none read
  | some result =>
    obtain ⟨value, rest⟩ := result
    obtain ⟨left, rfl, rfl⟩ := of_literal_append apart read
    rw [bind_of_read read]
    cases left with
    | nil => exact fails
    | cons c left =>
      have notBlank : Text.isBlank c = false := solid c (suffix.subset (by simp))
      exact bind_of_none (someBlanks_of_endsRun (endsRun_cons notBlank _))

/-! ### Characters that a pattern does not come past -/

/-- Whatever a reader takes has the character `mark` in it, with none but allowed characters before
it. -/
def Meets {α : Type} (reader : Reader α) (mark : Char) (allowed : Char → Prop) : Prop :=
  Takes reader fun taken => ∃ lead tail, taken = lead ++ mark :: tail ∧ ∀ c ∈ lead, allowed c

section Meets

variable {α β : Type} {mark stop : Char} {allowed : Char → Prop}

theorem Meets.of_lead {first : Reader α} {second : α → Reader β}
    (takes : Takes first fun taken => ∀ c ∈ taken, allowed c)
    (meets : ∀ value, Meets (second value) mark allowed) :
    Meets (first >>= second) mark allowed := by
  refine (takes.bind meets).mono ?_
  rintro taken ⟨left, right, rfl, leftAllowed, lead, tail, rfl, leadAllowed⟩
  refine ⟨left ++ lead, tail, (List.append_assoc _ _ _).symm, fun c member => ?_⟩
  exact (List.mem_append.mp member).elim (leftAllowed c) (leadAllowed c)

theorem Meets.bind {first : Reader α} {second : α → Reader β} (meets : Meets first mark allowed)
    (takes : ∀ value, Takes (second value) fun _ => True) :
    Meets (first >>= second) mark allowed := by
  refine (Takes.bind meets takes).mono ?_
  rintro taken ⟨left, right, rfl, ⟨lead, tail, rfl, leadAllowed⟩, -⟩
  exact ⟨lead, tail ++ right, by simp, leadAllowed⟩

theorem meets_enclosed (opening closing : Char) (allowed : Char → Prop) :
    Meets (enclosed opening closing) opening allowed := by
  intro text value after read
  obtain ⟨c, rest, one, two⟩ := bind_eq_some.mp read
  cases text with
  | nil => cases one
  | cons d text =>
    simp only [charWhere] at one
    split at one
    · rename_i same
      cases one
      have takes : Takes (do
          let inner ← run (· != closing)
          let _ ← charWhere (· == closing)
          return inner) fun _ => True :=
        (takes_any_run _).bind_any fun _ => (takes_charWhere _).bind_any fun _ => takes_any_pure _
      obtain ⟨tail, rfl, -⟩ := takes _ _ _ two
      rw [beq_iff_eq] at same
      exact ⟨c :: tail, rfl, [], tail, by rw [same]; rfl, List.forall_mem_nil _⟩
    · cases one

/-- **A pattern passes a text that it could only leave past the character it has to meet.** -/
theorem passes_of_barrier {reader : Reader α} (meets : Meets reader mark allowed)
    {front : List Char} (unmarked : mark ∉ front) (last : [stop] <:+ front)
    (barred : ¬ allowed stop) (rest : List Char) : Passes reader front rest := by
  intro back nonempty suffix
  cases read : reader (back ++ rest) with
  | none => rfl
  | some result =>
    obtain ⟨value, after⟩ := result
    obtain ⟨taken, whole, lead, tail, rfl, leadAllowed⟩ := meets _ _ _ read
    have inside : stop ∈ back := by
      have short : [stop].length ≤ back.length := List.length_pos_of_ne_nil nonempty
      exact (List.suffix_of_suffix_length_le last suffix short).subset List.mem_cons_self
    rw [List.append_assoc] at whole
    rcases List.append_eq_append_iff.mp whole with ⟨more, long, -⟩ | ⟨more, rfl, same⟩
    · -- The text stands in what comes before the mark.
      exact absurd (leadAllowed stop (long ▸ List.mem_append_left more inside)) barred
    · cases more with
      | nil =>
        rw [List.append_nil] at inside
        exact absurd (leadAllowed stop inside) barred
      | cons c more =>
        rw [List.cons_append, List.cons_append, List.cons.injEq] at same
        refine absurd (suffix.subset ?_) unmarked
        rw [same.1]
        simp

end Meets

end CodeBrief.Pattern
