/-
**When reading JSON is given up.**

A text that is no JSON is in error somewhere. Reading may also be given up at a limit, of digits or of
nesting, without an error in what has been read. A text at which this happens shows it: it has a long
run of digits, or many opening brackets.

* `GivesUp` — that reading a text is given up at a limit.
* `Fits` — what a step of reading leaves is an end of the text, and a limit at which it stops shows in
  the text; `fits_read` — so it is with all steps, by induction on their number.
* `not_givesUp_of_isModest` — a text that shows neither is read, or it is in error.
* `givesUp_digits` — a run of digits beyond the limit is given up.
* `isObject_iff_of_parse` — a text that is read is an object just if it opens a brace first.
-/

import CodeBrief.Proofs.Json.RoundTrip
import CodeBrief.Proofs.Outcome
import Mathlib.Data.List.TakeWhile

namespace CodeBrief.Json

open Text (digitLimit)

/-- The text of an error is at fault itself. -/
def ReadError.IsMalformed : ReadError → Prop
  | .malformed .. => True
  | _ => False

/-- Reading a text is given up at a limit, if there is `room` for that many lists and objects within
each other. -/
def GivesUp (room : Nat) (text : String) : Prop :=
  ∃ error, readDocument room text = .error error ∧ ¬ error.IsMalformed

section GivesUp

variable {room : Nat} {text : String} {error : ReadError}

theorem givesUp_iff (stops : readDocument room text = .error error) :
    GivesUp room text ↔ ¬ error.IsMalformed := by
  refine ⟨?_, fun limit => ⟨error, stops, limit⟩⟩
  rintro ⟨error', stops', limit⟩
  rw [stops] at stops'
  obtain rfl := Except.error.inj stops'
  exact limit

theorem not_givesUp_of_readDocument {document : Document}
    (read : readDocument room text = .ok document) : ¬ GivesUp room text := by
  rintro ⟨error, stops, -⟩
  rw [read] at stops
  cases stops

/-- A text is in error whether or not halves of surrogate pairs are replaced in it. -/
theorem parse_eq_error :
    parse room text = .error error ↔ readDocument room text = .error error := by
  unfold parse
  cases readDocument room text with
  | ok document => exact iff_of_false nofun nofun
  | error error' =>
    constructor
    · rintro ⟨⟩
      rfl
    · rintro ⟨⟩
      rfl

end GivesUp

/-! ### What shows a limit -/

/-- Whether a list or an object begins with `c`. -/
def opensContainer (c : Char) : Bool :=
  c == '[' || c == '{'

/-- What stops reading shows in the text, if `room` more lists and objects may be nested. -/
def Fault.IsFoundIn (room : Nat) (text : List Char) : Fault → Prop
  | .stuck _ _ => True
  | .oversized size =>
    digitLimit < size ∧ ∃ digits, AreDigits digits ∧ digits.length = size ∧ digits <:+: text
  | .deep _ => room < text.countP opensContainer

/-- A step of reading leaves an end of the text, or what stops it shows in the text. -/
def Fits {α : Type} (room : Nat) (text : List Char) : Step α → Prop
  | .ok (_, rest) => rest <:+ text
  | .error fault => fault.IsFoundIn room text

theorem Fault.IsFoundIn.weaken {room : Nat} {part text : List Char} {fault : Fault}
    (found : fault.IsFoundIn room part) (suffix : part <:+ text) : fault.IsFoundIn room text := by
  cases fault with
  | stuck => trivial
  | oversized size =>
    obtain ⟨long, digits, areDigits, length, within⟩ := found
    exact ⟨long, digits, areDigits, length, within.trans suffix.isInfix⟩
  | deep => exact Nat.lt_of_lt_of_le found (suffix.sublist.countP_le)

/-- Within a list or an object there is room for one less. -/
theorem Fault.IsFoundIn.opened {room : Nat} {rest : List Char} {c : Char} {fault : Fault}
    (opens : opensContainer c = true) (found : fault.IsFoundIn (room - 1) rest) :
    fault.IsFoundIn room (c :: rest) := by
  cases fault with
  | stuck => trivial
  | oversized size =>
    obtain ⟨long, digits, areDigits, length, within⟩ := found
    exact ⟨long, digits, areDigits, length, within.trans (List.suffix_cons c rest).isInfix⟩
  | deep =>
    show room < (c :: rest).countP opensContainer
    have inner : room - 1 < rest.countP opensContainer := found
    rw [List.countP_cons_of_pos opens]
    omega

namespace Fits

variable {α β : Type} {room : Nat} {part text rest : List Char} {step : Step α}

theorem weaken (fits : Fits room part step) (suffix : part <:+ text) : Fits room text step := by
  cases step with
  | ok result => exact fits.trans suffix
  | error fault => exact Fault.IsFoundIn.weaken fits suffix

/-- What is made of what has been read leaves the same. -/
theorem map (fits : Fits room text step) {make : α × List Char → β × List Char}
    (same : ∀ result, (make result).2 = result.2) : Fits room text (Except.map make step) := by
  cases step with
  | ok result =>
    show (make result).2 <:+ text
    rw [same]
    exact fits
  | error fault => exact fits

theorem opened {c : Char} (opens : opensContainer c = true) (fits : Fits (room - 1) rest step) :
    Fits room (c :: rest) step := by
  cases step with
  | ok result => exact fits.trans (List.suffix_cons c rest)
  | error fault => exact Fault.IsFoundIn.opened opens fits

end Fits

theorem skipSpace_suffix (text : List Char) : skipSpace text <:+ text :=
  List.dropWhile_suffix isSpace

/-! ### Texts -/

/-- A fault that is no limit. -/
def Fault.IsStuck : Fault → Prop
  | .stuck _ _ => True
  | _ => False

theorem Fault.IsStuck.isFoundIn {fault : Fault} (stuck : fault.IsStuck) (room : Nat)
    (text : List Char) : fault.IsFoundIn room text := by
  cases fault with
  | stuck => trivial
  | oversized => exact stuck.elim
  | deep => exact stuck.elim

theorem isStuck_of_unicodeEscape {text : List Char} {fault : Fault}
    (stops : unicodeEscape text = .error fault) : fault.IsStuck := by
  unfold unicodeEscape at stops
  split at stops
  · obtain rfl := Except.error.inj stops
    trivial
  · split at stops
    · split at stops
      · cases stops
      · split at stops
        · obtain rfl := Except.error.inj stops
          trivial
        · split at stops <;> cases stops
    · cases stops

theorem isStuck_of_escape {opened : Nat} {text : List Char} {fault : Fault}
    (stops : escape opened text = .error fault) : fault.IsStuck := by
  revert stops
  fun_cases escape opened text with
  | case2 rest =>
    cases unicode : unicodeEscape rest with
    | ok value => exact nofun
    | error fault =>
      rintro ⟨⟩
      exact isStuck_of_unicodeEscape unicode
  | _ =>
    rintro ⟨⟩
    try trivial

theorem fits_readText (room opened skip : Nat) (text : List Char) :
    Fits room text (readText opened skip text) := by
  fun_induction readText opened skip text with
  | case1 => trivial
  | case2 skip c rest ih => exact ih.weaken (List.suffix_cons c rest)
  | case3 rest => exact List.suffix_cons '"' rest
  | case4 rest fault stops => exact (isStuck_of_escape stops).isFoundIn _ _
  | case5 rest c size escaped ih => exact (ih.weaken (List.suffix_cons _ rest)).map fun _ => rfl
  | case6 => trivial
  | case7 c rest _ _ _ ih => exact (ih.weaken (List.suffix_cons c rest)).map fun _ => rfl

theorem fits_readString (room : Nat) (rest : List Char) : Fits room rest (readString rest) :=
  (fits_readText room _ 0 rest).map fun _ => rfl

/-! ### Numbers -/

theorem spanDigits_eq {text digits rest : List Char} (span : spanDigits text = (digits, rest)) :
    text = digits ++ rest ∧ AreDigits digits := by
  obtain ⟨rfl, rfl⟩ := Prod.mk.inj span
  exact ⟨List.takeWhile_append_dropWhile.symm, fun c => List.mem_takeWhile_imp⟩

theorem readWhole?_eq_some {text whole rest : List Char}
    (read : readWhole? text = some (whole, rest)) : text = whole ++ rest ∧ AreDigits whole := by
  unfold readWhole? at read
  split at read
  · obtain ⟨rfl, rfl⟩ := Prod.mk.inj (Option.some.inj read)
    exact ⟨rfl, areDigits_zeros 1⟩
  · split at read
    · exact spanDigits_eq (Option.some.inj read)
    · cases read
  · cases read

theorem readPlaces_suffix (text : List Char) : (readPlaces text).2 <:+ text := by
  fun_cases readPlaces text with
  | case1 c rest digit =>
    exact (List.dropWhile_suffix Char.isDigit).trans (List.suffix_cons '.' (c :: rest))
  | case2 => exact List.suffix_rfl
  | case3 => exact List.suffix_rfl

theorem suffix_of_readExponent? {text rest : List Char} {exponent : Int}
    (read : readExponent? text = some (exponent, rest)) : rest <:+ text := by
  revert read
  fun_cases readExponent? text with
  | case3 mark signed _ _ unsigned sign digits after span =>
    rintro ⟨⟩
    have afterSign : unsigned <:+ signed := by
      split at sign
      · exact (Prod.mk.inj sign).2 ▸ List.suffix_cons '-' _
      · exact (Prod.mk.inj sign).2 ▸ List.suffix_cons '+' _
      · exact (Prod.mk.inj sign).2 ▸ List.suffix_rfl
    rw [(spanDigits_eq span).1] at afterSign
    exact ((List.suffix_append digits _).trans afterSign).trans (List.suffix_cons mark signed)
  | _ => exact nofun

theorem fits_readNumber? {room : Nat} {negative : Bool} {text : List Char} {step : Step Document}
    (read : readNumber? negative text = some step) : Fits room text step := by
  unfold readNumber? at read
  split at read
  · cases read
  rename_i whole rest found
  obtain ⟨rfl, areDigits⟩ := readWhole?_eq_some found
  have places := (readPlaces_suffix rest).trans (List.suffix_append whole rest)
  dsimp only at read
  split at read
  · rename_i exponent rest' tail
    obtain rfl := Option.some.inj read
    exact (suffix_of_readExponent? tail).trans places
  · split at read
    · split at read
      · rename_i long
        obtain rfl := Option.some.inj read
        exact ⟨long, whole, areDigits, rfl, (List.prefix_append whole rest).isInfix⟩
      · obtain rfl := Option.some.inj read
        exact places
    · obtain rfl := Option.some.inj read
      exact places

theorem fits_readSimple (room : Nat) (text : List Char) : Fits room text (readSimple text) := by
  unfold readSimple
  split
  · exact List.drop_suffix _ _
  · dsimp only
    split
    · rename_i step number
      split at number
      · exact (fits_readNumber? number).weaken (List.suffix_cons '-' _)
      · exact fits_readNumber? number
    · trivial

/-! ### Values -/

theorem Fits.of_eq_ok {α : Type} {room : Nat} {text rest : List Char} {step : Step α} {value : α}
    (fits : Fits room text step) (read : step = .ok (value, rest)) : rest <:+ text := by
  rw [read] at fits
  exact fits

theorem Fits.of_eq_error {α : Type} {room : Nat} {text : List Char} {step : Step α}
    {fault : Fault} (fits : Fits room text step) (stops : step = .error fault) :
    fault.IsFoundIn room text := by
  rw [stops] at fits
  exact fits

theorem suffix_of_skipSpace {text after : List Char} {c : Char}
    (left : skipSpace text = c :: after) : after <:+ text :=
  (List.suffix_cons c after).trans (left ▸ skipSpace_suffix text)

theorem Fault.isFoundIn_deep {room : Nat} {c : Char} (opens : opensContainer c = true)
    (full : room = 0) (container : Container) (rest : List Char) :
    (Fault.deep container).IsFoundIn room (c :: rest) := by
  show room < (c :: rest).countP opensContainer
  rw [full, List.countP_cons_of_pos opens]
  exact Nat.succ_pos _

section Step

variable {fuel : Nat} (values : ∀ room text, Fits room text (readValue room fuel text))
  (items : ∀ room text, Fits room text (readItems room fuel text))
  (members : ∀ room text, Fits room text (readMembers room fuel text))

include items members in
theorem fits_readValue_succ (room : Nat) (text : List Char) :
    Fits room text (readValue room (fuel + 1) text) := by
  unfold readValue
  split
  · rename_i rest
    exact ((fits_readString room rest).weaken (List.suffix_cons '"' rest)).map fun _ => rfl
  · rename_i rest
    split
    · exact Fault.isFoundIn_deep rfl ‹_› .array rest
    · split
      · rename_i after closed
        exact (suffix_of_skipSpace closed).trans (List.suffix_cons '[' rest)
      · exact (((items (room - 1) _).weaken (skipSpace_suffix rest)).opened rfl).map fun _ => rfl
  · rename_i rest
    split
    · exact Fault.isFoundIn_deep rfl ‹_› .object rest
    · split
      · rename_i after closed
        exact (suffix_of_skipSpace closed).trans (List.suffix_cons '{' rest)
      · exact (((members (room - 1) _).weaken (skipSpace_suffix rest)).opened rfl).map fun _ => rfl
  · exact fits_readSimple room text

include values items in
theorem fits_readItems_succ (room : Nat) (text : List Char) :
    Fits room text (readItems room (fuel + 1) text) := by
  unfold readItems
  split
  · rename_i fault stops
    exact (values room text).of_eq_error stops
  · rename_i value rest read
    have after := (values room text).of_eq_ok read
    split
    · rename_i left
      exact (suffix_of_skipSpace left).trans after
    · rename_i more left
      have further := ((skipSpace_suffix more).trans (suffix_of_skipSpace left)).trans after
      exact ((items room _).weaken further).map fun _ => rfl
    · trivial

include values members in
theorem fits_readMembers_succ (room : Nat) (text : List Char) :
    Fits room text (readMembers room (fuel + 1) text) := by
  unfold readMembers
  split
  · rename_i rest
    have quoted := (fits_readString room rest).weaken (List.suffix_cons '"' rest)
    split
    · rename_i fault stops
      exact quoted.of_eq_error stops
    · rename_i name rest' read
      have afterName := quoted.of_eq_ok read
      split
      · rename_i more colon
        have before := ((skipSpace_suffix more).trans (suffix_of_skipSpace colon)).trans afterName
        have valued := (values room (skipSpace more)).weaken before
        split
        · rename_i fault stops
          exact valued.of_eq_error stops
        · rename_i value rest'' read'
          have afterValue := valued.of_eq_ok read'
          split
          · rename_i left
            exact (suffix_of_skipSpace left).trans afterValue
          · rename_i more' left
            have further :=
              ((skipSpace_suffix more').trans (suffix_of_skipSpace left)).trans afterValue
            exact ((members room _).weaken further).map fun _ => rfl
          · trivial
      · trivial
  · trivial

end Step

/-- **Whatever is read leaves an end of the text, and a limit shows in the text.** The induction is on
the number of steps, for values, items and members together. -/
theorem fits_read (fuel : Nat) :
    (∀ room text, Fits room text (readValue room fuel text)) ∧
      (∀ room text, Fits room text (readItems room fuel text)) ∧
      ∀ room text, Fits room text (readMembers room fuel text) := by
  induction fuel with
  | zero => exact ⟨fun _ _ => trivial, fun _ _ => trivial, fun _ _ => trivial⟩
  | succ fuel ih =>
    obtain ⟨values, items, members⟩ := ih
    exact ⟨fits_readValue_succ items members, fits_readItems_succ values items,
      fits_readMembers_succ values members⟩

/-! ### Whole texts -/

/-- A text that shows no limit: its runs of digits are not too long, and there is room for as many
lists and objects within each other as it has opening brackets. -/
structure IsModest (room : Nat) (text : List Char) : Prop where
  short : ∀ digits, AreDigits digits → digits <:+: text → digits.length ≤ digitLimit
  shallow : text.countP opensContainer ≤ room

theorem isFoundIn_of_readAll {room : Nat} {text : List Char} {fault : Fault}
    (stops : readAll room text = .error fault) : fault.IsFoundIn room text := by
  unfold readAll at stops
  split at stops
  · obtain rfl := Except.error.inj stops
    trivial
  · split at stops
    · rename_i fault' inner
      obtain rfl := Except.error.inj stops
      have fits := (fits_read (2 * text.length + 2)).1 room (skipSpace text)
      exact (fits.of_eq_error inner).weaken (skipSpace_suffix text)
    · split at stops
      · cases stops
      · obtain rfl := Except.error.inj stops
        trivial

/-- **A text that shows no limit is not given up.** -/
theorem not_givesUp_of_isModest {room : Nat} {text : String} (modest : IsModest room text.toList) :
    ¬ GivesUp room text := by
  rintro ⟨error, stops, limit⟩
  unfold readDocument at stops
  cases read : readAll room text.toList with
  | ok value =>
    rw [read] at stops
    cases stops
  | error fault =>
    rw [read] at stops
    obtain rfl := Except.error.inj stops
    have found := isFoundIn_of_readAll read
    cases fault with
    | stuck => exact limit trivial
    | oversized size =>
      obtain ⟨long, digits, areDigits, rfl, within⟩ := found
      exact absurd (modest.short digits areDigits within) (Nat.not_le.mpr long)
    | deep => exact absurd modest.shallow (Nat.not_le.mpr found)

/-- **A run of digits beyond the limit is given up.** -/
theorem givesUp_digits {digits : List Char} (isWhole : IsWhole digits)
    (long : digitLimit < digits.length) (room : Nat) : GivesUp room (String.ofList digits) := by
  have number := readNumber?_oversized isWhole ends_nil false long
  have simple : readSimple digits = .error (.oversized digits.length) := by
    simpa using readSimple_of_readNumber? number
  obtain ⟨c, more, rfl⟩ := List.exists_cons_of_ne_nil isWhole.nonempty
  have opening := isOpening_of_isDigit (isWhole.digits c List.mem_cons_self)
  refine ⟨.oversizedInteger (c :: more).length, ?_, id⟩
  unfold readDocument readAll
  rw [String.toList_ofList, if_neg (by simpa using opening.2.2.2), skipSpace_cons opening.1,
    readValue_simple (bare_of_isDigit (isWhole.digits c List.mem_cons_self)), simple]
  rfl

/-! ### Objects -/

/-- A value is an object. -/
def IsObject {τ : Type} (value : ValueOf τ) : Prop :=
  ∃ members, value = .object members

theorem isObject_map_iff {τ σ : Type} {change : τ → σ} {value : ValueOf τ} :
    IsObject (value.map change) ↔ IsObject value := by
  cases value with
  | object members => exact iff_of_true ⟨_, rfl⟩ ⟨_, rfl⟩
  | _ => exact iff_of_false nofun nofun

theorem not_isObject_of_readNumber? {negative : Bool} {text rest : List Char} {value : Document}
    (read : readNumber? negative text = some (.ok (value, rest))) : ¬ IsObject value := by
  rintro ⟨members, rfl⟩
  unfold readNumber? at read
  split at read
  · cases read
  · dsimp only at read
    split at read
    · simp at read
    · split at read
      · split at read <;> simp at read
      · simp at read

theorem not_isObject_of_readSimple {text rest : List Char} {value : Document}
    (read : readSimple text = .ok (value, rest)) : ¬ IsObject value := by
  unfold readSimple at read
  split at read
  · rename_i name value' found
    obtain ⟨rfl, -⟩ := Prod.mk.inj (Except.ok.inj read)
    rintro ⟨members, rfl⟩
    have among := List.mem_of_find?_eq_some found
    simp [namedValues] at among
  · dsimp only at read
    split at read
    · rename_i step number
      rw [read] at number
      split at number <;> exact not_isObject_of_readNumber? number
    · cases read

/-- **An object is read just where one begins.** -/
theorem isObject_iff_of_readValue {room fuel : Nat} {text rest : List Char} {value : Document}
    (read : readValue room fuel text = .ok (value, rest)) :
    IsObject value ↔ text.head? = some '{' := by
  revert read
  fun_cases readValue room fuel text with
  | case1 | case3 | case6 => exact nofun
  | case2 | case5 | case8 =>
    intro read
    obtain ⟨_, -, same⟩ := map_eq_ok.mp read
    obtain ⟨rfl, -⟩ := Prod.mk.inj same
    simp [IsObject]
  | case4 | case7 =>
    intro read
    obtain ⟨rfl, -⟩ := Prod.mk.inj (Except.ok.inj read)
    simp [IsObject]
  | case9 text fuel noText noList noObject =>
    intro read
    refine iff_of_false (not_isObject_of_readSimple read) fun brace => ?_
    obtain ⟨more, same⟩ := List.head?_eq_some_iff.mp brace
    exact noObject more same

/-- The first character of a text that is no blank. -/
def firstVisible? (text : String) : Option Char :=
  (skipSpace text.toList).head?

theorem isObject_iff_of_readDocument {room : Nat} {text : String} {document : Document}
    (read : readDocument room text = .ok document) :
    IsObject document ↔ firstVisible? text = some '{' := by
  have whole := mapError_eq_ok.mp read
  unfold readAll at whole
  split at whole
  · cases whole
  · split at whole
    · cases whole
    · rename_i value rest inner
      split at whole
      · obtain rfl := Except.ok.inj whole
        exact isObject_iff_of_readValue inner
      · cases whole

/-- **A text that is read is an object just if it opens a brace first.** -/
theorem isObject_iff_of_parse {room : Nat} {text : String} {value : Value}
    (read : parse room text = .ok value) : IsObject value ↔ firstVisible? text = some '{' := by
  obtain ⟨document, inner, rfl⟩ := map_eq_ok.mp read
  rw [← isObject_iff_of_readDocument inner]
  exact isObject_map_iff

theorem not_givesUp_of_parse {room : Nat} {text : String} {value : Value}
    (read : parse room text = .ok value) : ¬ GivesUp room text := by
  obtain ⟨document, inner, -⟩ := map_eq_ok.mp read
  exact not_givesUp_of_readDocument inner

end CodeBrief.Json
