/-
**Values are read as they are written.**

In whatever style a value is written, it is read again as that value: each part is read up to the
comma or bracket behind it, and blanks between the parts are passed over.

* `IsReadable` — the values of which this holds: integers have no more digits than are read, fractional
  numbers are finite, and the members of an object have distinct names.
* `legible_asRead` — what is read of texts of characters is legible as it stands.
* `readItems_write`, `readMembers_write` — if the parts of a list or an object are read, so are all of
  them, by induction on the parts.
* `parse_write` — the whole text, if values do not lie too deep in each other.
-/

import CodeBrief.Proofs.Json.Numbers
import CodeBrief.Proofs.Json.Texts
import CodeBrief.Proofs.Ledger
import CodeBrief.Proofs.Text.CodeText

namespace CodeBrief.Json

open Text (spell digitLimit)

/-- A value that can be read again once it is written. -/
inductive IsReadable : Value → Prop
  | null : IsReadable .null
  | bool (truth : Bool) : IsReadable (.bool truth)
  | int {n : Int} : (spell n.natAbs).length ≤ digitLimit → IsReadable (.int n)
  | float {number : Binary64} : number.IsFinite → IsReadable (.float number)
  | string (text : String) : IsReadable (.string text)
  | array {items : List Value} : (∀ item ∈ items, IsReadable item) → IsReadable (.array items)
  | object {members : List (String × Value)} : (members.map Prod.fst).Nodup →
      (∀ member ∈ members, IsReadable member.2) → IsReadable (.object members)

/-! ### Texts of characters -/

section Texts

variable {τ σ ρ : Type}

theorem mapItems_eq (change : τ → σ) (items : List (ValueOf τ)) :
    ValueOf.mapItems change items = items.map (ValueOf.map change) := by
  induction items with
  | nil => rfl
  | cons item rest ih => rw [ValueOf.mapItems, ih, List.map_cons]

theorem mapMembers_eq (change : τ → σ) (members : List (τ × ValueOf τ)) :
    ValueOf.mapMembers change members =
      members.map fun member => (change member.1, member.2.map change) := by
  induction members with
  | nil => rfl
  | cons member rest ih => rw [ValueOf.mapMembers, ih, List.map_cons]

mutual

/-- Texts that are changed and changed back leave the value as it was. -/
theorem map_map_of_leftInverse {change : τ → σ} {back : σ → τ}
    (inverse : ∀ text, back (change text) = text) :
    ∀ value : ValueOf τ, (value.map change).map back = value
  | .null | .bool _ | .int _ | .float _ => rfl
  | .string text => congrArg ValueOf.string (inverse text)
  | .array items => congrArg ValueOf.array (mapItems_of_leftInverse inverse items)
  | .object members => congrArg ValueOf.object (mapMembers_of_leftInverse inverse members)

theorem mapItems_of_leftInverse {change : τ → σ} {back : σ → τ}
    (inverse : ∀ text, back (change text) = text) :
    ∀ items : List (ValueOf τ), ValueOf.mapItems back (ValueOf.mapItems change items) = items
  | [] => rfl
  | item :: rest => congrArg₂ List.cons (map_map_of_leftInverse inverse item)
      (mapItems_of_leftInverse inverse rest)

theorem mapMembers_of_leftInverse {change : τ → σ} {back : σ → τ}
    (inverse : ∀ text, back (change text) = text) :
    ∀ members : List (τ × ValueOf τ),
      ValueOf.mapMembers back (ValueOf.mapMembers change members) = members
  | [] => rfl
  | (name, value) :: rest => congrArg₂ List.cons
      (congrArg₂ Prod.mk (inverse name) (map_map_of_leftInverse inverse value))
      (mapMembers_of_leftInverse inverse rest)

end

/-- **What is read of texts of characters is legible as it stands.** -/
theorem legible_asRead (value : Value) : Document.legible value.asRead = value :=
  map_map_of_leftInverse CodeText.legible_ofString value

/-- A member of an object as it is read. -/
def memberAsRead (member : String × Value) : CodeText × Document :=
  (.ofString member.1, Value.asRead member.2)

/-- Members with distinct names have distinct names as they are read. -/
theorem nodup_names_asRead {members : List (String × Value)}
    (distinct : (members.map Prod.fst).Nodup) :
    ((members.map memberAsRead).map Prod.fst).Nodup := by
  have names : (members.map memberAsRead).map Prod.fst =
      (members.map Prod.fst).map CodeText.ofString := by
    rw [List.map_map, List.map_map]
    rfl
  rw [names]
  exact distinct.map CodeText.ofString_injective

theorem asRead_array (items : List Value) :
    Value.asRead (.array items) = .array (items.map Value.asRead) :=
  congrArg ValueOf.array (mapItems_eq _ items)

theorem asRead_object (members : List (String × Value)) :
    Value.asRead (.object members) = .object (members.map memberAsRead) :=
  congrArg ValueOf.object (mapMembers_eq _ members)

end Texts

/-! ### Between the parts -/

/-- A character at which a value may begin: no blank, no closing bracket, no byte-order mark. -/
def IsOpening (c : Char) : Prop :=
  isSpace c = false ∧ c ≠ ']' ∧ c ≠ '}' ∧ c ≠ Char.ofNat 0xFEFF

instance (c : Char) : Decidable (IsOpening c) :=
  inferInstanceAs (Decidable (_ ∧ _))

theorem isOpening_of_isDigit {c : Char} (digit : c.isDigit = true) : IsOpening c := by
  have notAmong : ∀ d : Char, d.isDigit = false → c ≠ d := by
    rintro d notDigit rfl
    rw [digit] at notDigit
    cases notDigit
  refine ⟨?_, notAmong _ rfl, notAmong _ rfl, notAmong _ rfl⟩
  simp [isSpace, notAmong ' ' rfl, notAmong '\t' rfl, notAmong '\n' rfl, notAmong '\r' rfl]

/-- No text, list or object begins with a digit. -/
theorem bare_of_isDigit {c : Char} (digit : c.isDigit = true) : c ≠ '"' ∧ c ≠ '[' ∧ c ≠ '{' := by
  refine ⟨?_, ?_, ?_⟩ <;> rintro rfl <;> cases digit

theorem skipSpace_cons {c : Char} (notSpace : isSpace c = false) (rest : List Char) :
    skipSpace (c :: rest) = c :: rest :=
  List.dropWhile_cons_of_neg (by simp [notSpace])

theorem skipSpace_append {blanks : List Char} (areSpaces : ∀ c ∈ blanks, isSpace c = true) {c : Char}
    (notSpace : isSpace c = false) (rest : List Char) :
    skipSpace (blanks ++ c :: rest) = c :: rest := by
  unfold skipSpace
  rw [List.dropWhile_append_of_pos areSpaces]
  exact skipSpace_cons notSpace rest

theorem isSpace_of_mem_newLine (style : Style) (depth : Nat) :
    ∀ c ∈ style.newLine depth, isSpace c = true := by
  unfold Style.newLine
  intro c member
  cases indent : style.indent with
  | none =>
    rw [indent] at member
    cases member
  | some blanks =>
    rw [indent] at member
    rcases List.mem_cons.mp member with rfl | blank
    · rfl
    · rw [List.eq_of_mem_replicate blank]
      rfl

theorem skipSpace_newLine (style : Style) (depth : Nat) {c : Char} (notSpace : isSpace c = false)
    (rest : List Char) : skipSpace (style.newLine depth ++ c :: rest) = c :: rest :=
  skipSpace_append (isSpace_of_mem_newLine style depth) notSpace rest

/-- The colon behind a name, and the blank behind that. -/
theorem colon_eq (style : Style) :
    ∃ blanks, style.colon = ':' :: blanks ∧ ∀ c ∈ blanks, isSpace c = true := by
  unfold Style.colon
  split
  · exact ⟨[], rfl, nofun⟩
  · refine ⟨[' '], rfl, fun c member => ?_⟩
    rw [List.mem_singleton.mp member]
    rfl

/-- A comma or a closing bracket. -/
def IsClosing (c : Char) : Prop :=
  c = ',' ∨ c = ']' ∨ c = '}'

theorem IsClosing.notSpace {c : Char} (closing : IsClosing c) : isSpace c = false := by
  rcases closing with rfl | rfl | rfl <;> rfl

/-- It does not go on with a number, also on a line of its own. -/
theorem IsClosing.ends {c : Char} (closing : IsClosing c) (rest : List Char) : Ends (c :: rest) := by
  rintro d ⟨⟩
  rcases closing with rfl | rfl | rfl <;> decide

theorem IsClosing.ends_newLine {c : Char} (closing : IsClosing c) (style : Style) (depth : Nat)
    (rest : List Char) : Ends (style.newLine depth ++ c :: rest) := by
  unfold Style.newLine
  cases style.indent with
  | none => exact closing.ends rest
  | some blanks =>
    rintro d ⟨⟩
    decide

/-! ### Values -/

/-- A value is read as it is written, if it lies deep enough and the number of steps is enough. -/
structure Reads (style : Style) (value : Value) : Prop where
  opens : ∀ depth, ∃ c text, writeAt style depth value = c :: text ∧ IsOpening c
  read : ∀ (depth : Nat) {room fuel rest}, value.depth ≤ room →
    (writeAt style depth value).length ≤ fuel → Ends rest →
      readValue room fuel (writeAt style depth value ++ rest) = .ok (value.asRead, rest)

section Parts

variable {style : Style} {value : Value}

theorem Reads.length_pos (reads : Reads style value) (depth : Nat) :
    0 < (writeAt style depth value).length := by
  obtain ⟨c, text, same, -⟩ := reads.opens depth
  simp [same]

/-- Blanks before a value are passed over. -/
theorem Reads.skipSpace (reads : Reads style value) {blanks : List Char}
    (areSpaces : ∀ c ∈ blanks, isSpace c = true) (depth : Nat) (rest : List Char) :
    Json.skipSpace (blanks ++ (writeAt style depth value ++ rest)) =
      writeAt style depth value ++ rest := by
  obtain ⟨c, text, same, opening⟩ := reads.opens depth
  rw [same]
  exact skipSpace_append areSpaces opening.1 (text ++ rest)

theorem readValue_simple {c : Char} (bare : c ≠ '"' ∧ c ≠ '[' ∧ c ≠ '{') (room fuel : Nat)
    (rest : List Char) : readValue room (fuel + 1) (c :: rest) = readSimple (c :: rest) := by
  rw [readValue]
  · exact fun rest same => bare.1 (List.cons.inj same).1
  · exact fun rest same => bare.2.1 (List.cons.inj same).1
  · exact fun rest same => bare.2.2 (List.cons.inj same).1

/-- A value that is neither a text nor a list nor an object. -/
theorem reads_simple {text : List Char} {c : Char} (same : ∀ depth, writeAt style depth value = text)
    (begins : ∃ more, text = c :: more) (opening : IsOpening c)
    (bare : c ≠ '"' ∧ c ≠ '[' ∧ c ≠ '{')
    (read : ∀ rest, Ends rest → readSimple (text ++ rest) = .ok (value.asRead, rest)) :
    Reads style value := by
  obtain ⟨more, rfl⟩ := begins
  refine ⟨fun depth => ⟨c, more, same depth, opening⟩, ?_⟩
  intro depth room fuel rest _ enough ends
  rw [same] at enough ⊢
  obtain ⟨fuel, rfl⟩ := Nat.exists_eq_succ_of_ne_zero (Nat.ne_of_gt (Nat.lt_of_lt_of_le
    (Nat.succ_pos more.length) enough))
  rw [← read rest ends, List.cons_append, readValue_simple bare]

theorem writeText_append (style : Style) (text : String) (rest : List Char) :
    style.writeText text ++ rest =
      '"' :: (text.toList.flatMap style.writeChar ++ '"' :: rest) := by
  simp [Style.writeText]

theorem reads_number {text : List Char} (same : ∀ depth, writeAt style depth value = text)
    (spells : Spells text value.asRead) : Reads style value := by
  obtain ⟨c, more, begins, first⟩ := spells.exists_cons
  have opening : IsOpening c ∧ c ≠ '"' ∧ c ≠ '[' ∧ c ≠ '{' := by
    rcases first with rfl | digit
    · decide
    · exact ⟨isOpening_of_isDigit digit, bare_of_isDigit digit⟩
  exact reads_simple same ⟨more, begins⟩ opening.1 opening.2 fun rest ends => spells.readSimple ends

theorem reads_string (text : String) : Reads style (.string text) := by
  constructor
  · intro depth
    exact ⟨'"', _, rfl, by decide⟩
  · intro depth room fuel rest _ enough _
    rw [writeAt] at enough ⊢
    obtain ⟨fuel, rfl⟩ := Nat.exists_eq_succ_of_ne_zero (Nat.ne_zero_of_lt enough)
    rw [writeText_append, readValue, readString_writeText]
    rfl

/-! ### Lists and objects -/

/-- **The items of a list are read as they are written**, up to the bracket behind them. -/
theorem readItems_write {depth room outer : Nat} {items : List Value} {item : Value}
    (reads : ∀ value ∈ item :: items, Reads style value)
    (shallow : ∀ value ∈ item :: items, value.depth ≤ room) {fuel : Nat}
    (enough : (writeAt style depth item).length + (writeItems style depth items).length < fuel)
    (rest : List Char) :
    readItems room fuel (writeAt style depth item ++ (writeItems style depth items ++
        (style.newLine outer ++ ']' :: rest))) =
      .ok ((item :: items).map Value.asRead, rest) := by
  induction items generalizing item fuel with
  | nil =>
    have bracket : IsClosing ']' := Or.inr (Or.inl rfl)
    have first := reads item List.mem_cons_self
    have deep := shallow item List.mem_cons_self
    obtain ⟨fuel, rfl⟩ := Nat.exists_eq_succ_of_ne_zero (Nat.ne_zero_of_lt enough)
    rw [writeItems, List.nil_append, readItems,
      first.read depth deep (by omega) (bracket.ends_newLine style outer rest)]
    dsimp only
    rw [skipSpace_newLine style outer bracket.notSpace]
    rfl
  | cons next more ih =>
    have comma : IsClosing ',' := Or.inl rfl
    have first := reads item List.mem_cons_self
    have deep := shallow item List.mem_cons_self
    have second := reads next (by simp)
    have items : writeItems style depth (next :: more) ++ (style.newLine outer ++ ']' :: rest) =
        ',' :: (style.newLine depth ++ (writeAt style depth next ++
          (writeItems style depth more ++ (style.newLine outer ++ ']' :: rest)))) := by
      simp [writeItems]
    obtain ⟨fuel, rfl⟩ := Nat.exists_eq_succ_of_ne_zero (Nat.ne_zero_of_lt enough)
    have long := first.length_pos depth
    simp only [writeItems, List.length_cons, List.length_append] at enough
    rw [items, readItems, first.read depth deep (by omega) (comma.ends _)]
    dsimp only
    rw [skipSpace_cons comma.notSpace]
    show (readItems room fuel (Json.skipSpace _)).map _ = _
    rw [second.skipSpace (isSpace_of_mem_newLine style depth),
      ih (fun value member => reads value (List.mem_cons_of_mem item member))
        (fun value member => shallow value (List.mem_cons_of_mem item member)) (by omega)]
    rfl

/-- What is read behind a member, with that member in front. -/
def afterMember (room fuel : Nat) (member : CodeText × Document) (after : List Char) :
    Step (List (CodeText × Document)) :=
  match Json.skipSpace after with
  | '}' :: after => .ok ([member], after)
  | ',' :: more => (readMembers room fuel (Json.skipSpace more)).map fun (pairs, after) =>
      (member :: pairs, after)
  | other => .error (.stuck .noComma other.length)

/-- The name of a member, the colon and its value are read, whatever stands behind them. -/
theorem readMembers_member {depth room fuel : Nat} {member : String × Value}
    (first : Reads style member.2) (deep : member.2.depth ≤ room)
    (enough : (writeAt style depth member.2).length ≤ fuel) {after : List Char} (ends : Ends after) :
    readMembers room (fuel + 1) (style.writeText member.1 ++ (style.colon ++
        (writeAt style depth member.2 ++ after))) =
      afterMember room fuel (memberAsRead member) after := by
  obtain ⟨blanks, colon, areSpaces⟩ := colon_eq style
  have noSpace : isSpace ':' = false := rfl
  rw [writeText_append, readMembers, readString_writeText]
  dsimp only
  rw [colon, List.cons_append, skipSpace_cons noSpace]
  simp only [first.skipSpace areSpaces, first.read depth deep enough ends]
  rfl

/-- **The members of an object are read as they are written**, up to the brace behind them. -/
theorem readMembers_write {depth room outer : Nat} {members : List (String × Value)}
    {member : String × Value} (reads : ∀ entry ∈ member :: members, Reads style entry.2)
    (shallow : ∀ entry ∈ member :: members, entry.2.depth ≤ room) {fuel : Nat}
    (enough : (writeAt style depth member.2).length + (writeMembers style depth members).length < fuel)
    (rest : List Char) :
    readMembers room fuel (style.writeText member.1 ++ (style.colon ++
        (writeAt style depth member.2 ++ (writeMembers style depth members ++
          (style.newLine outer ++ '}' :: rest))))) =
      .ok ((member :: members).map memberAsRead, rest) := by
  induction members generalizing member fuel with
  | nil =>
    have brace : IsClosing '}' := Or.inr (Or.inr rfl)
    have first := reads member List.mem_cons_self
    have deep := shallow member List.mem_cons_self
    obtain ⟨fuel, rfl⟩ := Nat.exists_eq_succ_of_ne_zero (Nat.ne_zero_of_lt enough)
    rw [writeMembers, List.nil_append,
      readMembers_member first deep (by omega) (brace.ends_newLine style outer rest), afterMember,
      skipSpace_newLine style outer brace.notSpace]
    rfl
  | cons next more ih =>
    have comma : IsClosing ',' := Or.inl rfl
    have first := reads member List.mem_cons_self
    have deep := shallow member List.mem_cons_self
    have quote : isSpace '"' = false := rfl
    have members : writeMembers style depth (next :: more) ++ (style.newLine outer ++ '}' :: rest) =
        ',' :: (style.newLine depth ++ (style.writeText next.1 ++ (style.colon ++
          (writeAt style depth next.2 ++
            (writeMembers style depth more ++ (style.newLine outer ++ '}' :: rest)))))) := by
      simp [writeMembers]
    obtain ⟨fuel, rfl⟩ := Nat.exists_eq_succ_of_ne_zero (Nat.ne_zero_of_lt enough)
    simp only [writeMembers, List.length_cons, List.length_append] at enough
    rw [members, readMembers_member first deep (by omega) (comma.ends _), afterMember,
      skipSpace_cons comma.notSpace]
    show (readMembers room fuel (Json.skipSpace _)).map _ = _
    have following := ih (fun entry within => reads entry (List.mem_cons_of_mem member within))
      (fun entry within => shallow entry (List.mem_cons_of_mem member within))
      (show _ < fuel by omega)
    rw [writeText_append] at following ⊢
    rw [skipSpace_append (isSpace_of_mem_newLine style depth) quote, following]
    rfl

theorem depth_le_of_mem_items {items : List Value} (member : value ∈ items) :
    value.depth ≤ ValueOf.depthOfItems items := by
  induction items with
  | nil => cases member
  | cons item rest ih =>
    rw [ValueOf.depthOfItems]
    rcases List.mem_cons.mp member with rfl | later
    · exact le_max_left _ _
    · exact (ih later).trans (le_max_right _ _)

theorem depth_le_of_mem_members {members : List (String × Value)} {member : String × Value}
    (inside : member ∈ members) : member.2.depth ≤ ValueOf.depthOfMembers members := by
  induction members with
  | nil => cases inside
  | cons entry rest ih =>
    rw [ValueOf.depthOfMembers]
    rcases List.mem_cons.mp inside with rfl | later
    · exact le_max_left _ _
    · exact (ih later).trans (le_max_right _ _)

theorem reads_array {items : List Value} (reads : ∀ item ∈ items, Reads style item) :
    Reads style (.array items) := by
  have opening : IsOpening '[' := by decide
  constructor
  · intro depth
    cases items <;> exact ⟨'[', _, rfl, opening⟩
  · intro depth room fuel rest deep enough _
    rw [ValueOf.depth] at deep
    cases items with
    | nil =>
      rw [writeAt] at enough ⊢
      obtain ⟨fuel, rfl⟩ := Nat.exists_eq_succ_of_ne_zero (Nat.ne_zero_of_lt enough)
      rw [List.cons_append, readValue, if_neg (by omega)]
      rfl
    | cons item items =>
      have first := reads item List.mem_cons_self
      obtain ⟨c, text, begins, opening⟩ := first.opens (depth + 1)
      have all : writeAt style depth (.array (item :: items)) ++ rest =
          '[' :: (style.newLine (depth + 1) ++ (writeAt style (depth + 1) item ++
            (writeItems style (depth + 1) items ++ (style.newLine depth ++ ']' :: rest)))) := by
        simp [writeAt]
      have long := congrArg List.length all
      simp only [List.length_append, List.length_cons] at long
      have within : ∀ value ∈ item :: items, value.depth ≤ room - 1 := by
        intro value member
        have := depth_le_of_mem_items member
        omega
      obtain ⟨fuel, rfl⟩ : ∃ rest, fuel = rest + 1 := ⟨fuel - 1, by omega⟩
      rw [all, readValue, if_neg (by omega), first.skipSpace (isSpace_of_mem_newLine _ _)]
      split
      · rename_i same
        rw [begins] at same
        exact absurd (List.cons.inj same).1 opening.2.1
      · rw [readItems_write reads within (by omega), asRead_array]
        rfl

theorem reads_object {members : List (String × Value)} (distinct : (members.map Prod.fst).Nodup)
    (reads : ∀ member ∈ members, Reads style member.2) : Reads style (.object members) := by
  have opening : IsOpening '{' := by decide
  constructor
  · intro depth
    cases members <;> exact ⟨'{', _, rfl, opening⟩
  · intro depth room fuel rest deep enough _
    rw [ValueOf.depth] at deep
    cases members with
    | nil =>
      rw [writeAt] at enough ⊢
      obtain ⟨fuel, rfl⟩ := Nat.exists_eq_succ_of_ne_zero (Nat.ne_zero_of_lt enough)
      rw [List.cons_append, readValue, if_neg (by omega)]
      rfl
    | cons member members =>
      have quote : isSpace '"' = false := rfl
      have all : writeAt style depth (.object (member :: members)) ++ rest =
          '{' :: (style.newLine (depth + 1) ++ (style.writeText member.1 ++ (style.colon ++
            (writeAt style (depth + 1) member.2 ++ (writeMembers style (depth + 1) members ++
              (style.newLine depth ++ '}' :: rest)))))) := by
        simp [writeAt]
      have long := congrArg List.length all
      simp only [List.length_append, List.length_cons] at long
      have within : ∀ entry ∈ member :: members, entry.2.depth ≤ room - 1 := by
        intro entry inside
        have := depth_le_of_mem_members inside
        omega
      obtain ⟨fuel, rfl⟩ : ∃ rest, fuel = rest + 1 := ⟨fuel - 1, by omega⟩
      have read := @readMembers_write style (depth + 1) (room - 1) depth members member reads within
        fuel (by omega) rest
      rw [writeText_append] at all read
      rw [all, readValue, if_neg (by omega), skipSpace_append (isSpace_of_mem_newLine _ _) quote]
      split
      · rename_i same
        exact absurd (List.cons.inj same).1 (by decide)
      · rw [read]
        show Except.ok (ValueOf.object (entriesOf _), rest) = _
        rw [entriesOf_of_nodup (nodup_names_asRead distinct), asRead_object]

end Parts

/-! ### The whole text -/

/-- **A readable value is read as it is written.** -/
theorem reads_of_isReadable (style : Style) {value : Value} (readable : IsReadable value) :
    Reads style value := by
  induction readable with
  | null => exact reads_simple (fun _ => rfl) ⟨_, rfl⟩ (by decide) (by decide) fun rest _ => rfl
  | bool truth =>
    cases truth
    · exact reads_simple (fun _ => rfl) ⟨_, rfl⟩ (by decide) (by decide) fun rest _ => rfl
    · exact reads_simple (fun _ => rfl) ⟨_, rfl⟩ (by decide) (by decide) fun rest _ => rfl
  | int short => exact reads_number (fun _ => rfl) (spells_int short)
  | float finite => exact reads_number (fun _ => rfl) (spells_float style.numbers finite)
  | string text => exact reads_string text
  | array _ ih => exact reads_array ih
  | object distinct _ ih => exact reads_object distinct ih

/-- **The text of a readable value spells that value**, whatever the style, if values do not lie too
deep in each other. -/
theorem parse_write (style : Style) {value : Value} (readable : IsReadable value)
    {room : Nat} (shallow : value.depth ≤ room) : parse room (style.write value) = .ok value := by
  have reads := reads_of_isReadable style readable
  obtain ⟨c, text, begins, opening⟩ := reads.opens 0
  have read := reads.read 0 shallow
    (show _ ≤ 2 * (writeAt style 0 value).length + 2 by omega) ends_nil
  rw [List.append_nil] at read
  unfold parse readDocument readAll Style.write Style.chars
  rw [String.toList_ofList]
  rw [begins] at read ⊢
  rw [if_neg (by simpa using opening.2.2.2), skipSpace_cons opening.1, read]
  exact congrArg Except.ok (legible_asRead value)

end CodeBrief.Json
