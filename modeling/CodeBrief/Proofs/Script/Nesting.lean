/-
**Blocks nest.**

Two blocks are found by two searches that know nothing of each other. Still they lie one behind the
other or one inside the other: the depth of the second one at some place is the difference of the
depths of the first one there and at the brace where the second one begins, and at that brace the
first one is open.

* `braceDepth_drop` — this difference.
* `exists_closesFrom_drop` — a block that begins inside a closed one is closed before it.
* `blockEnd_cases` — two blocks, one of which begins behind the other.
* `functionPlaces`, `classPlaces` — where the bodies of functions and classes begin.
* `blocks_nest` — all blocks of a text, and the bodies that are found in it.
-/

import CodeBrief.Proofs.Script.Declarations
import CodeBrief.Proofs.Script.ShortestBlock

namespace CodeBrief.Script

open Pattern

/-! ### Two blocks of one text -/

/-- The depth from some place on is a difference of depths. -/
theorem braceDepth_drop (text : List Char) (start count : Nat) :
    braceDepth ((text.drop start).take count) =
      braceDepth (text.take (start + count)) - braceDepth (text.take start) := by
  rw [List.take_add, braceDepth_append]
  omega

section Inside

variable {text : List Char} {start : Nat}

/-- **A block that begins inside a closed one is closed before it.** -/
theorem exists_closesFrom_drop (opens : text.head? = some '{')
    (opensInside : (text.drop start).head? = some '{') (behind : 0 < start) {last : Nat}
    (closes : ClosesFrom 0 text last) (first : ∀ m < last, ¬ ClosesFrom 0 text m)
    (inside : start < last) : ∃ m < last - start, ClosesFrom 0 (text.drop start) m := by
  by_contra never
  push Not at never
  -- The inner block would still be open where the outer one is about to be closed.
  have inner := braceDepth_take_pos opensInside never (Nat.sub_pos_of_lt inside) (Nat.le_refl _)
  have outer := braceDepth_take_pos opens first behind (Nat.le_of_lt inside)
  have atOne := closes.2
  rw [braceDepth_drop, Nat.add_sub_cancel' (Nat.le_of_lt inside)] at inner
  omega

/-- How long a block is that is closed early. -/
theorem length_blockAt_le {m : Nat} (closes : ClosesFrom 0 text m) :
    (blockAt text).length ≤ m + 1 := by
  by_contra longer
  exact not_closesFrom_inside (Nat.lt_of_not_le longer) closes

/-- **Two blocks of which one begins behind the other**: the second one begins behind the end of the
first one, or it ends with the first one at the latest, and before it if that is closed. -/
theorem length_blockAt_cases (opens : text.head? = some '{')
    (opensInside : (text.drop start).head? = some '{') (behind : 0 < start) :
    (blockAt text).length ≤ start ∨
      start + (blockAt (text.drop start)).length ≤ (blockAt text).length ∧
      ((∃ k, ClosesFrom 0 text k) → (∃ k, ClosesFrom 0 (text.drop start) k) ∧
        start + (blockAt (text.drop start)).length < (blockAt text).length) := by
  rcases blockAt_cases text with ⟨last, closes, first, isBlock⟩ | ⟨unclosed, isBlock⟩
  · have reaches : last < text.length := (List.getElem?_eq_some_iff.mp closes.1).1
    have length : (blockAt text).length = last + 1 := by
      rw [isBlock, List.length_take]
      omega
    rcases Nat.lt_trichotomy start last with inside | same | after
    · obtain ⟨m, earlier, closesInner⟩ :=
        exists_closesFrom_drop opens opensInside behind closes first inside
      have short := length_blockAt_le closesInner
      exact Or.inr ⟨by omega, fun _ => ⟨⟨m, closesInner⟩, by omega⟩⟩
    · -- The brace that closes the first block opens none.
      rw [same, List.head?_drop, closes.1] at opensInside
      cases opensInside
    · exact Or.inl (by omega)
  · refine Or.inr ⟨?_, fun ⟨k, closes⟩ => absurd closes (unclosed k)⟩
    have opened : '{' ∈ text := List.mem_of_mem_head? opens
    have rest := (blockAt_isPrefix (text.drop start)).length_le
    have within : start < text.length := by
      by_contra beyond
      rw [List.drop_of_length_le (Nat.le_of_not_lt beyond)] at opensInside
      cases opensInside
    rw [List.length_drop] at rest
    rw [isBlock, if_pos opened]
    omega

end Inside

/-! ### Blocks at places -/

/-- Where the block at a place ends. -/
def blockEnd (content : String) (start : Nat) : Nat :=
  start + (block content start).length

/-- The block at a place is closed by a brace, and not by the end of the text. -/
def IsClosed (content : String) (start : Nat) : Prop :=
  ∃ k, ClosesAt (content.toList.drop start) k

theorem blockEnd_eq (content : String) (start : Nat) :
    blockEnd content start = start + (blockAt (content.toList.drop start)).length := by
  rw [blockEnd, ← String.length_toList, toList_block]

/-- **Two blocks at different places.** -/
theorem blockEnd_cases {content : String} {first second : Nat} (before : first < second)
    (opens : content.toList[first]? = some '{') (opens' : content.toList[second]? = some '{') :
    blockEnd content first ≤ second ∨ blockEnd content second ≤ blockEnd content first ∧
      (IsClosed content first →
        IsClosed content second ∧ blockEnd content second < blockEnd content first) := by
  have further : (content.toList.drop first).drop (second - first) = content.toList.drop second := by
    rw [List.drop_drop, Nat.add_sub_cancel' (Nat.le_of_lt before)]
  rw [← List.head?_drop] at opens opens'
  rw [← further] at opens'
  have cases := length_blockAt_cases opens opens' (Nat.sub_pos_of_lt before)
  rw [further] at cases
  rw [IsClosed, IsClosed, exists_closesAt_iff, exists_closesAt_iff, blockEnd_eq, blockEnd_eq]
  refine cases.imp (fun after => by omega) fun ⟨within, closed⟩ => ⟨by omega, fun closes => ?_⟩
  obtain ⟨closesInner, earlier⟩ := closed closes
  exact ⟨closesInner, by omega⟩

/-! ### Bodies -/

/-- The class declarations of a text. -/
def classDeclarations (text : List Char) : List (Match (String × Option String)) :=
  allMatches (fun _ => classDeclaration) text

/-- **A class declaration ends with its opening brace.** -/
theorem takes_classDeclaration : Takes classDeclaration fun taken => ['{'] <:+ taken := by
  have head : Takes classHead fun taken => ['{'] <:+ taken := by
    refine Takes.orElse ?_ ?_
    · refine Takes.bind_ends ?_ fun base => takes_blanks.bind_ends fun _ =>
        takes_brace.bind_pure fun _ => _
      exact takes_someBlanks.bind_any fun _ => (takes_any_literal _).bind_any fun _ =>
        takes_someBlanks.bind_any fun _ => takes_word
    · exact takes_blanks.bind_ends fun _ => takes_brace.bind_pure fun _ => _
  refine (takes_any_literal _).bind_ends fun _ => takes_someBlanks.bind_ends fun _ => ?_
  exact takes_word.bind_ends fun name => head.bind_pure fun _ => _

/-- The place of the brace that a match ends with. -/
def bracePlace {α : Type} (text : List Char) (hit : Match α) : Nat :=
  text.length - (fromBrace hit.after).length

/-- Where the bodies of the declared functions of a text begin. -/
def functionPlaces (content : String) : List Nat :=
  (declarations content.toList).map (bracePlace content.toList)

/-- Where the bodies of the classes of a text begin. -/
def classPlaces (content : String) : List Nat :=
  (classDeclarations content.toList).map (bracePlace content.toList)

section Bodies

variable {α : Type} {reader : Reader α} (ends : Takes reader fun taken => ['{'] <:+ taken)
  {content : String} {hit : Match α}
  (member : hit ∈ allMatches (fun _ => reader) content.toList)
include ends member

theorem drop_bracePlace :
    content.toList.drop (bracePlace content.toList hit) = fromBrace hit.after := by
  obtain ⟨before, whole⟩ := exists_eq_append_fromBrace ends member
  rw [bracePlace, whole, List.length_append, Nat.add_sub_cancel, List.drop_left]

theorem block_bracePlace :
    block content (bracePlace content.toList hit) =
      String.ofList (blockAt (fromBrace hit.after)) := by
  rw [block, drop_bracePlace ends member]

theorem getElem?_bracePlace : content.toList[bracePlace content.toList hit]? = some '{' := by
  rw [← List.head?_drop, drop_bracePlace ends member]
  rfl

end Bodies

theorem getElem?_bodyPlace {content : String} {place : Nat}
    (member : place ∈ functionPlaces content ++ classPlaces content) :
    content.toList[place]? = some '{' := by
  rcases List.mem_append.mp member with ofFunction | ofClass
  · obtain ⟨hit, isMatch, rfl⟩ := List.mem_map.mp ofFunction
    exact getElem?_bracePlace takes_declaration isMatch
  · obtain ⟨hit, isMatch, rfl⟩ := List.mem_map.mp ofClass
    exact getElem?_bracePlace takes_classDeclaration isMatch

/-- The bodies that are found are the blocks at these places. -/
theorem map_body_declared (content : String) :
    (declared content.toList).map FunctionFind.body =
      (functionPlaces content).map (block content) := by
  rw [declared_eq, functionPlaces, List.map_map, List.map_map]
  exact List.map_congr_left fun hit member => (block_bracePlace takes_declaration member).symm

theorem map_body_classes (content : String) :
    (classes content.toList).map ClassFind.body = (classPlaces content).map (block content) := by
  rw [classes, classPlaces, List.map_map, List.map_map]
  exact List.map_congr_left fun hit member => (block_bracePlace takes_classDeclaration member).symm

/-- **Blocks nest.** A block is the part of the text from its place up to its end. Of two blocks that
begin at braces, the later one begins behind the end of the earlier one, or it ends with the earlier
one at the latest; and if the earlier one is closed by a brace, then in the second case so is the
later one, and it ends before it. The bodies of the functions that are declared in a text and of its
classes are blocks that begin at braces, so that any two of them lie one behind the other or one
inside the other. -/
theorem blocks_nest (content : String) :
    (∀ place, (block content place).toList <+: content.toList.drop place) ∧
    (∀ first second, first < second → content.toList[first]? = some '{' →
      content.toList[second]? = some '{' →
      blockEnd content first ≤ second ∨ blockEnd content second ≤ blockEnd content first ∧
        (IsClosed content first →
          IsClosed content second ∧ blockEnd content second < blockEnd content first)) ∧
    (declared content.toList).map FunctionFind.body =
      (functionPlaces content).map (block content) ∧
    (classes content.toList).map ClassFind.body = (classPlaces content).map (block content) ∧
    ∀ first ∈ functionPlaces content ++ classPlaces content,
      ∀ second ∈ functionPlaces content ++ classPlaces content,
        (blockEnd content first ≤ second ∨ blockEnd content second ≤ first) ∨
        (first ≤ second ∧ blockEnd content second ≤ blockEnd content first) ∨
        (second ≤ first ∧ blockEnd content first ≤ blockEnd content second) := by
  refine ⟨fun place => ?_, fun first second before opens opens' => blockEnd_cases before opens opens',
    map_body_declared content, map_body_classes content, fun first member second member' => ?_⟩
  · rw [toList_block]
    exact blockAt_isPrefix _
  have opens := getElem?_bodyPlace member
  have opens' := getElem?_bodyPlace member'
  rcases Nat.lt_trichotomy first second with before | rfl | after
  · rcases blockEnd_cases before opens opens' with behind | ⟨within, -⟩
    · exact Or.inl (Or.inl behind)
    · exact Or.inr (Or.inl ⟨Nat.le_of_lt before, within⟩)
  · exact Or.inr (Or.inl ⟨Nat.le_refl _, Nat.le_refl _⟩)
  · rcases blockEnd_cases after opens' opens with behind | ⟨within, -⟩
    · exact Or.inl (Or.inr behind)
    · exact Or.inr (Or.inr ⟨Nat.le_of_lt after, within⟩)

end CodeBrief.Script
