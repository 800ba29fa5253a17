/-
**Bodies that refer to an earlier one.**

A function with a body that an earlier function has as well gets a reference to that function in the
place of the body, and is flagged. Nothing is lost by it: the function that is referred to keeps its
body, so that no reference leads to another one, and it is found by its key.

* `RefersTo` — that the function at a place refers to the one at an earlier place.
* `becomesOf_abstractFrom` — every function stays as it is or refers to an earlier one.
* `nodup_wholeBodies` — no body is left twice.
* `followReferences` — the functions with the bodies that they refer to;
  `followReferences_abstractFrom` — these are the functions there were.
* `abstractDuplicates_losesNothing` — what follows for the step; `not_unflagged_sameText` — a
  function that is flagged although its text is the same as before.

The references are made in one pass, which carries along the bodies that it has seen with the keys of
their functions. All inductions are therefore for any such list, and say of the functions that refer
to a body in it what the others do not need.
-/

import CodeBrief.Proofs.Brief.Growth
import CodeBrief.Proofs.Brief.WellFormed
import CodeBrief.Proofs.Pattern.Replacement

namespace CodeBrief

/-- Whether a function has a body that can be referred to: one that is not empty and has not been
replaced. -/
def FunctionRecord.isWhole (record : FunctionRecord) : Bool :=
  !(record.body.isEmpty || record.summarized)

/-- The function at the place `i` of a list, which is `record`, has become a reference to the one at
the place `j`, which is `original`. -/
structure RefersTo (records changed : List FunctionRecord) (i j : Nat)
    (record original : FunctionRecord) : Prop where
  /-- The reference goes back. -/
  earlier : j < i
  /-- There has been a body that had not been replaced. -/
  whole : records[i]? = some record ∧ record.isWhole = true
  /-- What is referred to is as it was, and has a body that has not been replaced. -/
  kept : records[j]? = some original ∧ changed[j]? = some original ∧ original.isWhole = true
  /-- That body is the one that has been replaced. -/
  same : original.body = record.body
  /-- What has become of the function. -/
  becomes : changed[i]? = some (record.referring original.key)

/-! ### One pass -/

section Pass

variable {records changed : List FunctionRecord} {i j : Nat} {record original : FunctionRecord}

theorem RefersTo.cons (refers : RefersTo records changed i j record original)
    (first first' : FunctionRecord) :
    RefersTo (first :: records) (first' :: changed) (i + 1) (j + 1) record original where
  earlier := Nat.succ_lt_succ refers.earlier
  whole := refers.whole
  kept := refers.kept
  same := refers.same
  becomes := refers.becomes

/-- A function whose body cannot be referred to is passed over. -/
theorem abstractFrom_passed (seen : List (String × String)) (rest : List FunctionRecord)
    (spent : record.isWhole = false) :
    abstractFrom seen (record :: rest) = record :: abstractFrom seen rest := by
  rw [FunctionRecord.isWhole, Bool.not_eq_false'] at spent
  rw [abstractFrom, if_pos spent]

/-- A new body is seen from then on. -/
theorem abstractFrom_new {seen : List (String × String)} (rest : List FunctionRecord)
    (whole : record.isWhole = true) (new : seen.lookup record.body = none) :
    abstractFrom seen (record :: rest) =
      record :: abstractFrom (seen ++ [(record.body, record.key)]) rest := by
  rw [FunctionRecord.isWhole, Bool.not_eq_true'] at whole
  rw [abstractFrom, if_neg (Bool.eq_false_iff.mp whole), new]

/-- A body that has been seen is replaced by a reference. -/
theorem abstractFrom_seen {seen : List (String × String)} {key : String}
    (rest : List FunctionRecord) (whole : record.isWhole = true)
    (known : seen.lookup record.body = some key) :
    abstractFrom seen (record :: rest) = record.referring key :: abstractFrom seen rest := by
  rw [FunctionRecord.isWhole, Bool.not_eq_true'] at whole
  rw [abstractFrom, if_neg (Bool.eq_false_iff.mp whole), known]
  rfl

/-- What becomes of the function at the place `i` if the bodies in `seen` have been seen before. -/
inductive BecomesOf (seen : List (String × String)) (records changed : List FunctionRecord)
    (i : Nat) : Prop where
  /-- It stays as it is. -/
  | unchanged (same : changed[i]? = records[i]?)
  /-- It refers to a body that has been seen before. -/
  | known (record : FunctionRecord) (key : String) (held : records[i]? = some record)
      (whole : record.isWhole = true) (found : seen.lookup record.body = some key)
      (becomes : changed[i]? = some (record.referring key))
  /-- It refers to an earlier function. -/
  | refers (j : Nat) (record original : FunctionRecord)
      (reference : RefersTo records changed i j record original)

/-- A function in front of the list has no say if it does not count as seen. -/
theorem BecomesOf.cons {seen : List (String × String)}
    (becomesOf : BecomesOf seen records changed i) (first first' : FunctionRecord) :
    BecomesOf seen (first :: records) (first' :: changed) (i + 1) := by
  cases becomesOf with
  | unchanged same => exact .unchanged same
  | known record key held whole found becomes => exact .known record key held whole found becomes
  | refers j record original reference =>
    exact .refers (j + 1) record original (reference.cons first first')

/-- What refers to a body that is seen in front of the list refers to the function that has it. -/
theorem BecomesOf.cons_seen {seen : List (String × String)} {first : FunctionRecord}
    (whole : first.isWhole = true)
    (becomesOf : BecomesOf (seen ++ [(first.body, first.key)]) records changed i) :
    BecomesOf seen (first :: records) (first :: changed) (i + 1) := by
  cases becomesOf with
  | unchanged same => exact .unchanged same
  | known record key held isWhole found becomes =>
    rw [List.lookup_append, Option.or_eq_some_iff] at found
    rcases found with before | ⟨-, here⟩
    · exact .known record key held isWhole before becomes
    · rw [List.lookup_cons, List.lookup_nil] at here
      split at here
      · rename_i isFirst
        cases here
        exact .refers 0 record first ⟨Nat.succ_pos i, ⟨held, isWhole⟩, ⟨rfl, rfl, whole⟩,
          (beq_iff_eq.mp isFirst).symm, becomes⟩
      · cases here
  | refers j record original reference =>
    exact .refers (j + 1) record original (reference.cons first first)

/-- **What becomes of every function:** it stays as it is, refers to a body seen before, or refers
to an earlier function of the list. -/
theorem becomesOf_abstractFrom (seen : List (String × String)) (records : List FunctionRecord)
    (i : Nat) : BecomesOf seen records (abstractFrom seen records) i := by
  induction records generalizing seen i with
  | nil => exact .unchanged rfl
  | cons first rest ih =>
    cases whole : first.isWhole with
    | false =>
      rw [abstractFrom_passed seen rest whole]
      cases i with
      | zero => exact .unchanged rfl
      | succ i => exact (ih seen i).cons first first
    | true =>
      cases known : seen.lookup first.body with
      | some key =>
        rw [abstractFrom_seen rest whole known]
        cases i with
        | zero => exact .known first key rfl whole known rfl
        | succ i => exact (ih seen i).cons first _
      | none =>
        rw [abstractFrom_new rest whole known]
        cases i with
        | zero => exact .unchanged rfl
        | succ i => exact (ih _ i).cons_seen whole

/-- **No body is left twice,** nor is one left that has been seen before. -/
theorem nodup_wholeBodies (seen : List (String × String)) (records : List FunctionRecord) :
    (((abstractFrom seen records).filter FunctionRecord.isWhole).map FunctionRecord.body).Nodup ∧
      ∀ record ∈ abstractFrom seen records, record.isWhole = true →
        seen.lookup record.body = none := by
  induction records generalizing seen with
  | nil => exact ⟨List.nodup_nil, fun _ member => absurd member List.not_mem_nil⟩
  | cons first rest ih =>
    cases whole : first.isWhole with
    | false =>
      obtain ⟨distinct, new⟩ := ih seen
      rw [abstractFrom_passed seen rest whole, List.filter_cons_of_neg (by simp [whole])]
      refine ⟨distinct, fun record member isWhole => ?_⟩
      rcases List.mem_cons.mp member with rfl | later
      · rw [whole] at isWhole
        cases isWhole
      · exact new record later isWhole
    | true =>
      cases known : seen.lookup first.body with
      | some key =>
        obtain ⟨distinct, new⟩ := ih seen
        have flagged : (first.referring key).isWhole = false := by
          simp [FunctionRecord.isWhole, FunctionRecord.referring]
        rw [abstractFrom_seen rest whole known, List.filter_cons_of_neg (by simp [flagged])]
        refine ⟨distinct, fun record member isWhole => ?_⟩
        rcases List.mem_cons.mp member with rfl | later
        · rw [flagged] at isWhole
          cases isWhole
        · exact new record later isWhole
      | none =>
        obtain ⟨distinct, new⟩ := ih (seen ++ [(first.body, first.key)])
        have apart : ∀ record ∈ abstractFrom (seen ++ [(first.body, first.key)]) rest,
            record.isWhole = true → seen.lookup record.body = none ∧ record.body ≠ first.body := by
          intro record member isWhole
          have absent := new record member isWhole
          rw [List.lookup_append, Option.or_eq_none_iff] at absent
          refine ⟨absent.1, fun same => ?_⟩
          rw [same, List.lookup_cons_self] at absent
          cases absent.2
        rw [abstractFrom_new rest whole known, List.filter_cons_of_pos whole, List.map_cons]
        refine ⟨List.nodup_cons.mpr ⟨fun inside => ?_, distinct⟩, fun record member isWhole => ?_⟩
        · obtain ⟨record, member, same⟩ := List.mem_map.mp inside
          obtain ⟨member, isWhole⟩ := List.mem_filter.mp member
          exact (apart record member isWhole).2 same
        · rcases List.mem_cons.mp member with rfl | later
          · exact known
          · exact (apart record later isWhole).1

end Pass

/-! ### Following references -/

/-- The key that a body refers to, if it is a reference. -/
def referredKey? (body : String) : Option String :=
  (Pattern.dropPrefix? "[Same body as ".toList body.toList).bind fun rest =>
    if rest.getLast? = some ']' then some (String.ofList rest.dropLast) else none

/-- The body of the function with a key. -/
def bodyUnder (records : List FunctionRecord) (key : String) : Option String :=
  (records.find? (·.key == key)).map FunctionRecord.body

/-- A function with the body that it refers to, and without its flag. -/
def FunctionRecord.resolved (records : List FunctionRecord) (record : FunctionRecord) :
    FunctionRecord :=
  match (referredKey? record.body).bind (bodyUnder records) with
  | some body => { record with body, summarized := false }
  | none => record

/-- Functions with the bodies that they refer to, where they have been flagged since `flags` were
noted. -/
def followReferences (flags : List Bool) (records : List FunctionRecord) : List FunctionRecord :=
  List.zipWith (fun flagged record =>
    if record.summarized && !flagged then record.resolved records else record) flags records

theorem referredKey?_referring (record : FunctionRecord) (key : String) :
    referredKey? (record.referring key).body = some key := by
  have spelled : (record.referring key).body.toList =
      "[Same body as ".toList ++ (key.toList ++ [']']) := by
    simp [FunctionRecord.referring]
  rw [referredKey?, Pattern.dropPrefix?_eq_some.mpr spelled]
  simp

/-- A function is found by its key if keys are distinct. -/
theorem bodyUnder_of_getElem? {records : List FunctionRecord} {j : Nat} {record : FunctionRecord}
    (distinct : (records.map FunctionRecord.key).Nodup) (held : records[j]? = some record) :
    bodyUnder records record.key = some record.body := by
  induction records generalizing j with
  | nil => cases held
  | cons first rest ih =>
    rw [List.map_cons, List.nodup_cons] at distinct
    rw [bodyUnder, List.find?_cons]
    cases j with
    | zero =>
      cases held
      simp
    | succ j =>
      have other : (first.key == record.key) = false := by
        refine beq_false_of_ne fun same => distinct.1 ?_
        rw [same]
        exact List.mem_map_of_mem (List.mem_of_getElem? held)
      rw [other]
      exact ih distinct.2 held

/-- **The references lead back to the functions there were.** -/
theorem followReferences_abstractFrom {records : List FunctionRecord}
    (distinct : (records.map FunctionRecord.key).Nodup) :
    followReferences (records.map FunctionRecord.summarized) (abstractFrom [] records) = records := by
  have distinct' : ((abstractFrom [] records).map FunctionRecord.key).Nodup := by
    rw [keys_abstractFrom]
    exact distinct
  refine List.ext_getElem? fun i => ?_
  rw [followReferences, List.getElem?_zipWith, List.getElem?_map]
  cases becomesOf_abstractFrom [] records i with
  | unchanged same =>
    rw [same]
    cases records[i]? with
    | none => rfl
    | some record => simp
  | known _ _ _ _ found _ => cases found
  | refers j record original refers =>
    obtain ⟨held, whole⟩ := refers.whole
    have body := bodyUnder_of_getElem? distinct' refers.kept.2.1
    rw [refers.becomes, held]
    rw [FunctionRecord.isWhole, Bool.not_eq_true', Bool.or_eq_false_iff] at whole
    have back : (record.referring original.key).resolved (abstractFrom [] records) = record := by
      rw [FunctionRecord.resolved, referredKey?_referring, Option.bind_some, body, refers.same,
        ← whole.2]
      rfl
    have flagged : ((record.referring original.key).summarized && !record.summarized) = true := by
      rw [whole.2]
      rfl
    rw [Option.map_some]
    dsimp only
    rw [if_pos flagged, back]

namespace Brief

/-- **Referring to an earlier body loses nothing.** If the functions of a brief have distinct keys,
then after the step no body that is not empty and not replaced occurs twice; every function is as it
was, or has been flagged and refers by key to an earlier one that is as it was and has the same body;
with the bodies that are referred to, the functions are those there were; and nothing but functions
is changed. -/
theorem abstractDuplicates_losesNothing (brief : Brief)
    (distinct : (brief.functions.map FunctionRecord.key).Nodup) :
    let abstracted := CompressionStep.abstractDuplicates.apply brief
    abstracted = { brief with functions := abstracted.functions } ∧
    ((abstracted.functions.filter FunctionRecord.isWhole).map FunctionRecord.body).Nodup ∧
    (∀ i : Nat, abstracted.functions[i]? = brief.functions[i]? ∨
      ∃ j record original, RefersTo brief.functions abstracted.functions i j record original) ∧
    followReferences (brief.functions.map FunctionRecord.summarized) abstracted.functions =
      brief.functions := by
  intro abstracted
  refine ⟨rfl, (nodup_wholeBodies [] brief.functions).1, fun i => ?_,
    followReferences_abstractFrom distinct⟩
  cases becomesOf_abstractFrom [] brief.functions i with
  | unchanged same => exact Or.inl same
  | known _ _ _ _ found _ => cases found
  | refers j record original reference => exact Or.inr ⟨j, record, original, reference⟩

/-- Four functions with one body: one that has been flagged before, one that keeps the body, and two
that refer to it. -/
theorem abstractDuplicates_losesNothing_fourFunctions :
    let brief : Brief := { functions := [
      { name := "e", path := "a.js", body := "{ return 1; }", summarized := true },
      { name := "f", path := "a.js", body := "{ return 1; }" },
      { name := "g", path := "b.js", body := "{ return 1; }" },
      { name := "h", path := "b.js", body := "{ return 1; }" }] }
    let abstracted := CompressionStep.abstractDuplicates.apply brief
    (brief.functions.map FunctionRecord.key).Nodup ∧
    abstracted.functions.map FunctionRecord.body =
      ["{ return 1; }", "{ return 1; }", "[Same body as a.js:f]", "[Same body as a.js:f]"] ∧
    followReferences [true, false, false, false] abstracted.functions = brief.functions := by
  intro brief abstracted
  have distinct : (brief.functions.map FunctionRecord.key).Nodup := by decide +kernel
  exact ⟨distinct, by decide +kernel, (abstractDuplicates_losesNothing brief distinct).2.2.2⟩

/-- **A function can be flagged although its text is the same as before:** its body has been the
reference that takes its place. -/
theorem not_unflagged_sameText :
    ¬ ∀ brief : Brief, (brief.functions.map FunctionRecord.key).Nodup →
      ∀ (i : Nat) (record changed : FunctionRecord), brief.functions[i]? = some record →
        (CompressionStep.abstractDuplicates.apply brief).functions[i]? = some changed →
        changed.body = record.body → changed = record := by
  intro always
  let body := "[Same body as a.js:f]"
  have same := always
    { functions := [{ name := "f", path := "a.js", body }, { name := "g", path := "a.js", body }] }
    (by decide +kernel) 1 { name := "g", path := "a.js", body }
    { name := "g", path := "a.js", body, summarized := true } rfl (by decide +kernel) rfl
  exact absurd (congrArg FunctionRecord.summarized same) (by decide)

end Brief

end CodeBrief
