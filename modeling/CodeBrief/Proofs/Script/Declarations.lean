/-
**Declarations that look like bare methods.**

The name of a declaration stands before a parameter list and a brace, as the name of a bare method
does. What tells them apart is the word `function` in front of the name. The two passes do not look
for it in the same way: a declaration may have any number of blanks behind the word, and anything in
front of it, while a name is passed over only if the word is whole and not too far away.

* `declarations`, `bareMethods` — the matches of the two patterns; `nameOffset` is the place of the
  name of a declaration.
* `WithinReach` — the word `function` of a declaration is whole, and it begins at most `lookBack`
  characters before the name.
* `followsFunctionWord_iff` — a bare method at the name of a declaration is passed over exactly if the
  declaration is within reach.
* `getLast?_functions` — which find of a name comes last, if no arrow function is bound to it.
-/

import CodeBrief.Proofs.Pattern.Matches
import CodeBrief.Script.Function

namespace CodeBrief.Script

open Pattern

/-- A declaration: the text before it, its name, and the text between its parentheses. -/
abbrev Declaration := Match (String × List Char)

/-- The declarations of a text. -/
def declarations (text : List Char) : List Declaration :=
  allMatches (fun _ => declaration) text

/-- What looks like a bare method in a text. -/
def bareMethods (text : List Char) : List (Match String) :=
  allMatches (atWordStart bareMethod) text

/-- The name, the parameters and the body of a declaration. -/
def Declaration.find (hit : Declaration) : FunctionFind where
  name := hit.value.1
  params := paramsOf hit.value.2
  body := String.ofList (blockAt (fromBrace hit.after))

theorem declared_eq (text : List Char) : declared text = (declarations text).map Declaration.find :=
  rfl

/-- The place of the name of a declaration: behind the word `function` and some blanks. -/
def nameOffset (text : List Char) (hit : Declaration) : Nat :=
  let behind := hit.before.length + "function".length
  behind + ((text.drop behind).takeWhile Text.isBlank).length

/-- The word `function` is not the end of another word, and the name is not far behind it. -/
def WithinReach (text : List Char) (hit : Declaration) : Prop :=
  atBoundary hit.before = true ∧ nameOffset text hit ≤ hit.before.length + lookBack

instance (text : List Char) (hit : Declaration) : Decidable (WithinReach text hit) :=
  inferInstanceAs (Decidable (_ ∧ _))

/-! ### What a declaration reads -/

theorem startsWith_of_declaration {text after : List Char} {value : String × List Char}
    (read : declaration text = some (value, after)) :
    ∃ behind, text = "function".toList ++ behind := by
  obtain ⟨_, behind, wordRead, -⟩ := bind_eq_some.mp read
  exact ⟨behind, literal_eq_some.mp wordRead⟩

theorem takes_brace : Takes (literal "\x7b") fun taken => ['{'] <:+ taken :=
  (takes_literal "\x7b").mono fun _ same => same ▸ List.suffix_refl _

/-- **A declaration ends with its opening brace.** -/
theorem takes_declaration : Takes declaration fun taken => ['{'] <:+ taken := by
  refine (takes_any_literal _).bind_ends fun _ => takes_someBlanks.bind_ends fun _ => ?_
  refine takes_word.bind_ends fun name => takes_blanks.bind_ends fun _ => ?_
  exact (takes_enclosed _ _).bind_ends fun inner => takes_blanks.bind_ends fun _ =>
    takes_brace.bind_pure fun _ => _

/-- Behind what ends with a brace, the text goes on. -/
theorem exists_eq_append_fromBrace {α : Type} {reader : Reader α}
    (ends : Takes reader fun taken => ['{'] <:+ taken) {text : List Char} {hit : Match α}
    (member : hit ∈ allMatches (fun _ => reader) text) :
    ∃ before, text = before ++ fromBrace hit.after := by
  obtain ⟨-, read⟩ := read_of_mem_allMatches member
  obtain ⟨taken, same, front, rfl⟩ := ends _ _ _ read
  refine ⟨text.take hit.before.length ++ front, ?_⟩
  calc text = text.take hit.before.length ++ text.drop hit.before.length :=
        (List.take_append_drop _ _).symm
    _ = text.take hit.before.length ++ front ++ fromBrace hit.after := by
        rw [same, List.append_assoc, List.append_assoc]
        rfl

/-! ### Looking back from a name -/

theorem followsFunctionWord_append {gap : List Char} (blank : ∀ c ∈ gap, Text.isBlank c = true)
    (earlier : List Char) :
    followsFunctionWord (gap.reverse ++ ("function".toList.reverse ++ earlier)) = true ↔
      gap.length + "function".length ≤ lookBack ∧ atBoundary earlier = true := by
  have spelled : "function".toList.reverse ++ earlier =
      'n' :: ("functio".toList.reverse ++ earlier) := rfl
  have letter : ¬ Text.isBlank 'n' = true := by decide
  have isGap : (gap.reverse ++ ("function".toList.reverse ++ earlier)).takeWhile Text.isBlank =
      gap.reverse := by
    rw [List.takeWhile_append_of_pos (by simpa using blank), spelled,
      List.takeWhile_cons_of_neg letter, List.append_nil]
  have read : dropPrefix? "function".toList.reverse ("function".toList.reverse ++ earlier) =
      some earlier := dropPrefix?_eq_some.mpr rfl
  unfold followsFunctionWord
  simp only [isGap, List.length_reverse]
  rw [← List.length_reverse, List.drop_left, read]
  simp

section Places

variable {text : List Char}

/-- What stands before the name of a declaration. -/
theorem before_nameOffset {hit : Declaration} (member : hit ∈ declarations text) :
    ∃ gap : List Char, (∀ c ∈ gap, Text.isBlank c = true) ∧
      nameOffset text hit = hit.before.length + "function".length + gap.length ∧
      (text.take (nameOffset text hit)).reverse =
        gap.reverse ++ ("function".toList.reverse ++ hit.before) := by
  obtain ⟨front, read⟩ := read_of_mem_allMatches member
  obtain ⟨behind, atKeyword⟩ := startsWith_of_declaration read
  have fromGap : text.drop (hit.before.length + "function".length) = behind := by
    rw [← List.drop_drop, atKeyword]
    exact List.drop_left
  have keyword : (text.drop hit.before.length).take "function".length = "function".toList := by
    rw [atKeyword]
    exact List.take_left
  have place : nameOffset text hit =
      hit.before.length + "function".length + (behind.takeWhile Text.isBlank).length := by
    unfold nameOffset
    simp only [fromGap]
  have gap : behind.take (behind.takeWhile Text.isBlank).length = behind.takeWhile Text.isBlank :=
    (List.prefix_iff_eq_take.mp (List.takeWhile_prefix Text.isBlank)).symm
  refine ⟨behind.takeWhile Text.isBlank, fun c => List.mem_takeWhile_imp, place, ?_⟩
  rw [place, List.take_add, List.take_add, fromGap, keyword, gap, List.reverse_append,
    List.reverse_append, ← front]

variable {hit : Match String} {declared : Declaration}

/-- **A bare method at the name of a declaration is passed over exactly if the declaration is within
reach.** -/
theorem followsFunctionWord_iff (isBare : hit ∈ bareMethods text)
    (isDeclared : declared ∈ declarations text)
    (same : hit.before.length = nameOffset text declared) :
    followsFunctionWord hit.before = true ↔ WithinReach text declared := by
  obtain ⟨front, -⟩ := read_of_mem_allMatches isBare
  obtain ⟨gap, blank, place, before⟩ := before_nameOffset isDeclared
  rw [front, same, before, followsFunctionWord_append blank]
  unfold WithinReach
  rw [place]
  constructor
  · rintro ⟨near, whole⟩
    exact ⟨whole, by omega⟩
  · rintro ⟨whole, near⟩
    exact ⟨by omega, whole⟩

end Places

/-! ### Which find comes last -/

section Last

variable {text : List Char} {name : String}

theorem mem_methodNames : name ∈ methodNames text ↔
    name ∉ controlWords ∧
      ∃ hit ∈ bareMethods text, hit.value = name ∧ ¬ followsFunctionWord hit.before = true := by
  unfold methodNames bareMethods
  simp only [List.mem_map, List.mem_filter, Bool.and_eq_true, Bool.not_eq_true',
    List.contains_eq_mem, decide_eq_false_iff_not, Bool.not_eq_true]
  constructor
  · rintro ⟨hit, ⟨member, notControl, apart⟩, rfl⟩
    exact ⟨notControl, hit, member, rfl, apart⟩
  · rintro ⟨notControl, hit, member, rfl, apart⟩
    exact ⟨hit, ⟨member, notControl, apart⟩, rfl⟩

/-- The last declaration of a name. -/
def lastDeclaration? (text : List Char) (name : String) : Option Declaration :=
  ((declarations text).filter fun hit => hit.value.1 == name).getLast?

theorem filter_map_named (names : List String) :
    (names.map FunctionFind.named).filter (fun find => find.name == name) =
      List.replicate (names.count name) (.named name) := by
  rw [List.filter_map]
  have own : (fun find : FunctionFind => find.name == name) ∘ FunctionFind.named =
      fun other => other == name := rfl
  rw [own, List.filter_beq, List.map_replicate]

/-- **Which find of a name comes last**, if no arrow function is bound to it: a bare method if there
is one that is not passed over, else the last declaration. -/
theorem getLast?_functions (notArrow : name ∉ found arrowBinding text) :
    ((functions text).filter fun find => find.name == name).getLast? =
      if name ∈ methodNames text then some (.named name)
      else (lastDeclaration? text name).map Declaration.find := by
  have declaredLast : ((declared text).filter fun find => find.name == name).getLast? =
      (lastDeclaration? text name).map Declaration.find := by
    rw [declared_eq, List.filter_map, List.getLast?_map]
    rfl
  unfold functions
  rw [List.filter_append, List.filter_append, filter_map_named, filter_map_named,
    List.count_eq_zero.mpr notArrow, List.replicate_zero, List.append_nil, List.getLast?_append,
    List.getLast?_replicate, declaredLast]
  by_cases bare : name ∈ methodNames text
  · have some : (methodNames text).count name ≠ 0 := fun none => List.count_eq_zero.mp none bare
    rw [if_neg some, if_pos bare]
    rfl
  · rw [if_pos (List.count_eq_zero.mpr bare), if_neg bare]
    rfl

end Last

end CodeBrief.Script
