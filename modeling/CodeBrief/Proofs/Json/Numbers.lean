/-
**Numbers are read as they are written.**

A number is written as a whole part, with places behind a point, with an exponent, or both. Each of
these parts ends where the next one begins, so that a number is read up to what follows it, if that
does not go on with the number (`Ends`).

* `readNumber?_whole`, `readNumber?_point`, `readNumber?_exponent` — the three forms of a number.
* `readNumber?_digitsText` — digits in any layout are read as these digits.
* `spells_int`, `spells_float` — so integers and finite numbers are read as they are written.
-/

import CodeBrief.Json.Reader
import CodeBrief.Json.Writer
import CodeBrief.Proofs.Binary64.Decimal

namespace CodeBrief.Json

open Text (spell spellInt takeNatural digitLimit)
open Binary64 (Layout Digits ofDecimal padZeros)

/-! ### Runs of digits -/

/-- All characters of a text are digits. -/
def AreDigits (text : List Char) : Prop :=
  ∀ c ∈ text, c.isDigit = true

/-- A text does not go on with a run of digits. -/
def EndsDigits (rest : List Char) : Prop :=
  ∀ c ∈ rest.head?, c.isDigit = false

/-- A text does not go on with a number. -/
def Ends (rest : List Char) : Prop :=
  ∀ c ∈ rest.head?, c.isDigit = false ∧ c ≠ '.' ∧ c ≠ 'e' ∧ c ≠ 'E'

theorem Ends.digits {rest : List Char} (ends : Ends rest) : EndsDigits rest :=
  fun c member => (ends c member).1

theorem areDigits_spell (n : Nat) : AreDigits (spell n) :=
  fun _ member => Text.isDigit_of_mem_spell member

theorem areDigits_zeros (count : Nat) : AreDigits (List.replicate count '0') := by
  intro c member
  rw [List.eq_of_mem_replicate member]
  rfl

theorem AreDigits.append {left right : List Char} (isLeft : AreDigits left)
    (isRight : AreDigits right) : AreDigits (left ++ right) := by
  intro c member
  rcases List.mem_append.mp member with inLeft | inRight
  · exact isLeft c inLeft
  · exact isRight c inRight

theorem spanDigits_append {digits rest : List Char} (areDigits : AreDigits digits)
    (ends : EndsDigits rest) : spanDigits (digits ++ rest) = (digits, rest) := by
  unfold spanDigits
  rw [List.takeWhile_append_of_pos areDigits, List.dropWhile_append_of_pos areDigits]
  cases rest with
  | nil => simp
  | cons c rest =>
    have stop := ends c rfl
    rw [List.takeWhile_cons_of_neg (by simp [stop]), List.dropWhile_cons_of_neg (by simp [stop]),
      List.append_nil]

/-! ### The parts of a number -/

/-- The whole part of a number: a single zero, or digits without a zero in front. -/
structure IsWhole (whole : List Char) : Prop where
  digits : AreDigits whole
  nonempty : whole ≠ []
  plain : whole = ['0'] ∨ whole.head? ≠ some '0'

theorem isWhole_spell (n : Nat) : IsWhole (spell n) := by
  refine ⟨areDigits_spell n, Text.spell_ne_nil n, ?_⟩
  rcases Nat.eq_zero_or_pos n with rfl | positive
  · exact Or.inl rfl
  · obtain ⟨c, rest, spelling, noZero⟩ := Text.spell_eq_cons positive
    rw [spelling]
    exact Or.inr (by simpa using noZero)

theorem readWhole?_append {whole rest : List Char} (isWhole : IsWhole whole)
    (ends : EndsDigits rest) : readWhole? (whole ++ rest) = some (whole, rest) := by
  rcases isWhole.plain with rfl | noZero
  · rfl
  · obtain ⟨c, more, rfl⟩ := List.exists_cons_of_ne_nil isWhole.nonempty
    have digit := isWhole.digits c List.mem_cons_self
    have different : c ≠ '0' := by simpa using noZero
    have span := spanDigits_append isWhole.digits ends
    rw [List.cons_append] at span ⊢
    unfold readWhole?
    split
    · rename_i same
      exact absurd (List.cons.inj same).1 different
    · rename_i same
      cases same
      rw [if_pos digit, span]
    · rename_i empty
      cases empty

theorem readPlaces_point {places rest : List Char} (areDigits : AreDigits places)
    (nonempty : places ≠ []) (ends : EndsDigits rest) :
    readPlaces ('.' :: (places ++ rest)) = (places, rest) := by
  have span := spanDigits_append areDigits ends
  obtain ⟨c, more, rfl⟩ := List.exists_cons_of_ne_nil nonempty
  rw [List.cons_append] at span ⊢
  rw [readPlaces, if_pos (areDigits c List.mem_cons_self), span]

theorem readPlaces_none {rest : List Char} (noPoint : rest.head? ≠ some '.') :
    readPlaces rest = ([], rest) := by
  unfold readPlaces
  split
  · simp at noPoint
  · rfl

theorem readExponent?_none {rest : List Char} (ends : Ends rest) : readExponent? rest = none := by
  cases rest with
  | nil => rfl
  | cons mark rest =>
    obtain ⟨-, -, small, large⟩ := ends mark rfl
    unfold readExponent?
    dsimp only
    rw [if_neg (not_or.mpr ⟨small, large⟩)]

theorem readExponent?_some (down : Bool) {digits rest : List Char} (areDigits : AreDigits digits)
    (nonempty : digits ≠ []) (ends : EndsDigits rest) :
    readExponent? ('e' :: (if down then '-' else '+') :: (digits ++ rest)) =
      some (if down then -((takeNatural 0 digits).1 : Int) else (takeNatural 0 digits).1, rest) := by
  have span := spanDigits_append areDigits ends
  have notEmpty : digits.isEmpty = false := by simpa using nonempty
  unfold readExponent?
  dsimp only
  rw [if_pos (Or.inl rfl)]
  cases down <;> simp [span, notEmpty]

/-! ### The forms of a number -/

section Forms

variable {whole places exponent rest : List Char} (isWhole : IsWhole whole) (ends : Ends rest)
  (negative : Bool)

include isWhole ends

theorem readNumber?_whole (short : whole.length ≤ digitLimit) :
    readNumber? negative (whole ++ rest) =
      some (.ok (.int (if negative then -((takeNatural 0 whole).1 : Int) else
        (takeNatural 0 whole).1), rest)) := by
  have noPoint : rest.head? ≠ some '.' := fun point => (ends '.' point).2.1 rfl
  unfold readNumber?
  rw [readWhole?_append isWhole ends.digits]
  simp only [readPlaces_none noPoint, readExponent?_none ends, List.append_nil, List.isEmpty_nil,
    if_true, if_neg (Nat.not_lt.mpr short)]

theorem readNumber?_oversized (long : digitLimit < whole.length) :
    readNumber? negative (whole ++ rest) = some (.error (.oversized whole.length)) := by
  have noPoint : rest.head? ≠ some '.' := fun point => (ends '.' point).2.1 rfl
  unfold readNumber?
  rw [readWhole?_append isWhole ends.digits]
  simp only [readPlaces_none noPoint, readExponent?_none ends, List.isEmpty_nil, if_true, if_pos long]

theorem readNumber?_point (areDigits : AreDigits places) (nonempty : places ≠ []) :
    readNumber? negative (whole ++ '.' :: (places ++ rest)) =
      some (.ok (.float (ofDecimal negative (takeNatural 0 (whole ++ places)).1 (-places.length)),
        rest)) := by
  have notEmpty : places.isEmpty = false := by simpa using nonempty
  have point : EndsDigits ('.' :: (places ++ rest)) := by
    rintro c ⟨⟩
    rfl
  unfold readNumber?
  rw [readWhole?_append isWhole point]
  simp only [readPlaces_point areDigits nonempty ends.digits, readExponent?_none ends, notEmpty,
    Bool.false_eq_true, if_false]

omit ends in
/-- A number with an exponent, and with places before that or without. -/
theorem readNumber?_exponent (ends : EndsDigits rest) (areDigits : AreDigits places)
    (down : Bool) (areDigits' : AreDigits exponent) (nonempty : exponent ≠ []) :
    readNumber? negative (whole ++ ((if places = [] then [] else '.' :: places) ++
        'e' :: (if down then '-' else '+') :: (exponent ++ rest))) =
      some (.ok (.float (ofDecimal negative (takeNatural 0 (whole ++ places)).1
        ((if down then -((takeNatural 0 exponent).1 : Int) else (takeNatural 0 exponent).1) -
          places.length)), rest)) := by
  have mark : EndsDigits ('e' :: (if down then '-' else '+') :: (exponent ++ rest)) := by
    rintro c ⟨⟩
    rfl
  have read := readExponent?_some down areDigits' nonempty ends
  unfold readNumber?
  by_cases none : places = []
  · subst none
    have bare : readPlaces ('e' :: (if down then '-' else '+') :: (exponent ++ rest)) = ([], _) :=
      readPlaces_none (by simp)
    rw [if_pos rfl, List.nil_append, readWhole?_append isWhole mark]
    simp only [bare, read]
  · have point : EndsDigits ('.' :: (places ++
        'e' :: (if down then '-' else '+') :: (exponent ++ rest))) := by
      rintro c ⟨⟩
      rfl
    rw [if_neg none, List.cons_append, readWhole?_append isWhole point]
    simp only [readPlaces_point areDigits none mark, read]

end Forms

/-! ### Digits in a layout -/

/-- Digits as a layout has them, without a sign. -/
def digitsText (layout : Layout) (digits : Digits) : List Char :=
  let text := spell digits.value
  let order := digits.exponent + text.length - 1
  if layout.leastPositional ≤ order ∧ order < layout.firstExponential then
    if 0 ≤ digits.exponent then text ++ List.replicate digits.exponent.toNat '0' ++ ['.', '0']
    else if 0 ≤ order then
      text.take (order + 1).toNat ++ '.' :: text.drop (order + 1).toNat
    else '0' :: '.' :: List.replicate (-order - 1).toNat '0' ++ text
  else
    text.take 1 ++ (if text.length = 1 then [] else '.' :: text.drop 1) ++ 'e' ::
      (if order < 0 then '-' else '+') :: padZeros layout.exponentWidth (spell order.natAbs)

theorem write_finite (layout : Layout) (negative : Bool) {mantissa : Nat} {place : Int}
    (positive : 0 < mantissa) :
    layout.write (.finite negative mantissa place) =
      (if negative then ['-'] else []) ++ digitsText layout (Binary64.shortest mantissa place) := by
  unfold Layout.write
  dsimp only
  rw [if_neg positive.ne']
  rfl

section Layouts

variable {n : Nat} (positive : 0 < n) {rest : List Char} (ends : Ends rest) (negative : Bool)

theorem takeNatural_spell_zeros (n count : Nat) :
    (takeNatural 0 (spell n ++ List.replicate count '0')).1 = n * 10 ^ count := by
  have zeros := Text.takeNatural_zeros n count []
  rw [List.append_nil] at zeros
  rw [Text.takeNatural_append (areDigits_spell n), Text.takeNatural_spell, Nat.zero_mul,
    Nat.zero_add, zeros]
  rfl

theorem takeNatural_zeros_spell (count n : Nat) :
    (takeNatural 0 (List.replicate count '0' ++ spell n)).1 = n := by
  rw [Text.takeNatural_zeros, Text.takeNatural_spell, Nat.zero_mul, Nat.zero_mul, Nat.zero_add]

include ends

/-- Digits with zeros before them, behind a point. -/
theorem readNumber?_behind (n count : Nat) :
    readNumber? negative ('0' :: '.' :: List.replicate count '0' ++ spell n ++ rest) =
      some (.ok (.float (ofDecimal negative n (-(count + (spell n).length))), rest)) := by
  have isWhole : IsWhole ['0'] := ⟨areDigits_zeros 1, by simp, Or.inl rfl⟩
  have placesDigits := (areDigits_zeros count).append (areDigits_spell n)
  have nonempty : List.replicate count '0' ++ spell n ≠ [] :=
    List.append_ne_nil_of_right_ne_nil _ (Text.spell_ne_nil n)
  have value : (takeNatural 0 (['0'] ++ (List.replicate count '0' ++ spell n))).1 = n :=
    takeNatural_zeros_spell (count + 1) n
  have read := readNumber?_point isWhole ends negative placesDigits nonempty
  rw [value, List.length_append, List.length_replicate, Nat.cast_add] at read
  exact read

include positive

/-- Digits with zeros behind them, and a last zero behind a point. -/
theorem readNumber?_zeros (count : Nat) :
    readNumber? negative (spell n ++ List.replicate count '0' ++ ['.', '0'] ++ rest) =
      some (.ok (.float (ofDecimal negative n count), rest)) := by
  have isWhole : IsWhole (spell n ++ List.replicate count '0') := by
    obtain ⟨c, more, spelling, noZero⟩ := Text.spell_eq_cons positive
    refine ⟨(areDigits_spell n).append (areDigits_zeros count), by simp [spelling], Or.inr ?_⟩
    simpa [spelling] using noZero
  have value : (takeNatural 0 (spell n ++ List.replicate count '0' ++ ['0'])).1 =
      n * 10 ^ (count + 1) := by
    rw [List.append_assoc, ← List.replicate_succ', takeNatural_spell_zeros]
  have read := readNumber?_point isWhole ends negative (areDigits_zeros 1) (by simp)
  have same : ((n * 10 ^ (count + 1) : Nat) * 10 ^ (-(1 : Nat) : Int) : ℚ) =
      n * 10 ^ (count : Int) := by
    push_cast
    rw [zpow_natCast, pow_succ, zpow_neg, zpow_one]
    field_simp
  rw [List.append_assoc]
  refine read.trans ?_
  rw [show List.replicate 1 '0' = ['0'] from rfl, value, List.length_singleton,
    Binary64.ofDecimal_congr negative same]

/-- Digits with a point among them. -/
theorem readNumber?_among {count : Nat} (some_ : 0 < count) (less : count < (spell n).length) :
    readNumber? negative ((spell n).take count ++ '.' :: (spell n).drop count ++ rest) =
      some (.ok (.float (ofDecimal negative n (count - (spell n).length)), rest)) := by
  obtain ⟨c, more, spelling, noZero⟩ := Text.spell_eq_cons positive
  have areDigits := areDigits_spell n
  have value := Text.takeNatural_spell 0 n
  rw [Nat.zero_mul, Nat.zero_add] at value
  have isWhole : IsWhole ((spell n).take count) := by
    refine ⟨fun d member => areDigits d (List.mem_of_mem_take member), ?_, Or.inr ?_⟩
    · rw [← List.length_pos_iff, List.length_take]
      omega
    · rw [List.head?_take, if_neg (by omega), spelling]
      simpa using noZero
  have placesDigits : AreDigits ((spell n).drop count) :=
    fun d member => areDigits d (List.mem_of_mem_drop member)
  have nonempty : (spell n).drop count ≠ [] := by
    rw [← List.length_pos_iff, List.length_drop]
    omega
  have read := readNumber?_point isWhole ends negative placesDigits nonempty
  rw [List.append_assoc, List.cons_append]
  refine read.trans ?_
  rw [List.take_append_drop, value, List.length_drop, Nat.cast_sub less.le, neg_sub]

/-- Digits with a point behind the first one, and an exponent. -/
theorem readNumber?_scientific (width : Nat) (order : Int) :
    readNumber? negative ((spell n).take 1 ++
        (if (spell n).length = 1 then [] else '.' :: (spell n).drop 1) ++
          'e' :: (if order < 0 then '-' else '+') :: padZeros width (spell order.natAbs) ++ rest) =
      some (.ok (.float (ofDecimal negative n (order + 1 - (spell n).length)), rest)) := by
  obtain ⟨c, more, spelling, noZero⟩ := Text.spell_eq_cons positive
  have areDigits := areDigits_spell n
  have value := Text.takeNatural_spell 0 n
  rw [Nat.zero_mul, Nat.zero_add] at value
  rw [spelling] at areDigits value ⊢
  have isWhole : IsWhole [c] := by
    refine ⟨?_, by simp, Or.inr (by simpa using noZero)⟩
    intro d member
    exact areDigits d (List.mem_cons.mpr (Or.inl (List.mem_singleton.mp member)))
  have moreDigits : AreDigits more := fun d member => areDigits d (List.mem_cons_of_mem c member)
  have nonempty : padZeros width (spell order.natAbs) ≠ [] :=
    List.append_ne_nil_of_right_ne_nil _ (Text.spell_ne_nil _)
  have exponentDigits : AreDigits (padZeros width (spell order.natAbs)) :=
    (areDigits_zeros _).append (areDigits_spell _)
  have size : (takeNatural 0 (padZeros width (spell order.natAbs))).1 = order.natAbs :=
    takeNatural_zeros_spell _ _
  have read := readNumber?_exponent isWhole negative ends.digits moreDigits (order < 0)
    exponentDigits nonempty
  rw [size, show ([c] ++ more : List Char) = c :: more from rfl, value] at read
  have isOrder : (if (decide (order < 0)) = true then -(order.natAbs : Int) else order.natAbs) =
      order := by
    simp only [decide_eq_true_eq]
    split <;> omega
  rw [isOrder] at read
  have last : order + 1 - ((c :: more).length : Int) = order - more.length := by
    simp only [List.length_cons]
    push_cast
    ring
  rw [last]
  simpa using read

end Layouts

/-- **Digits in any layout are read as these digits.** -/
theorem readNumber?_digitsText (layout : Layout) (negative : Bool) {digits : Digits}
    (positive : 0 < digits.value) {rest : List Char} (ends : Ends rest) :
    readNumber? negative (digitsText layout digits ++ rest) =
      some (.ok (.float (ofDecimal negative digits.value digits.exponent), rest)) := by
  have long := List.length_pos_iff.mpr (Text.spell_ne_nil digits.value)
  unfold digitsText
  dsimp only
  split
  · split
    · rename_i whole
      have read := readNumber?_zeros positive ends negative digits.exponent.toNat
      rw [Int.toNat_of_nonneg whole] at read
      exact read
    · rename_i fractional
      split
      · rename_i above
        rw [readNumber?_among positive ends negative (by omega) (by omega)]
        congr 5
        omega
      · rename_i below
        have read := readNumber?_behind ends negative digits.value
          (-(digits.exponent + (spell digits.value).length - 1) - 1).toNat
        refine read.trans ?_
        congr 5
        omega
  · rw [readNumber?_scientific positive ends]
    congr 5
    omega

/-! ### Numbers as values -/

theorem exists_digit_of_readNumber? {negative : Bool} {text : List Char} {step : Step Document}
    (read : readNumber? negative text = some step) :
    ∃ c rest, text = c :: rest ∧ c.isDigit = true := by
  have whole : readWhole? text ≠ none := by
    intro none
    simp [readNumber?, none] at read
  unfold readWhole? at whole
  split at whole
  · exact ⟨_, _, rfl, rfl⟩
  · split at whole
    · exact ⟨_, _, rfl, ‹_›⟩
    · exact absurd rfl whole
  · exact absurd rfl whole

/-- No word that is a value begins like a number. -/
theorem find?_namedValues_number (negative : Bool) {c : Char} (digit : c.isDigit = true)
    (rest : List Char) :
    (namedValues.find? fun (name, _) =>
      name.isPrefixOf ((if negative then ['-'] else []) ++ c :: rest)) = none := by
  have others : ∀ d : Char, d.isDigit = false → d ≠ c := by
    rintro d notDigit rfl
    rw [digit] at notDigit
    cases notDigit
  have n := others 'n' rfl
  have t := others 't' rfl
  have f := others 'f' rfl
  have N := others 'N' rfl
  have I := others 'I' rfl
  have minus := others '-' rfl
  cases negative <;> simp [namedValues, List.isPrefixOf, n, t, f, N, I, minus]

/-- What begins like a number is read as one. -/
theorem readSimple_of_readNumber? {negative : Bool} {unsigned : List Char} {step : Step Document}
    (read : readNumber? negative unsigned = some step) :
    readSimple ((if negative then ['-'] else []) ++ unsigned) = step := by
  obtain ⟨c, more, rfl, digit⟩ := exists_digit_of_readNumber? read
  have noWord := find?_namedValues_number negative digit more
  unfold readSimple
  rw [noWord]
  cases negative with
  | true => simp [read]
  | false =>
    have noSign : c ≠ '-' := by
      rintro rfl
      cases digit
    simp [noSign, read]

/-- A text that is read as a number up to anything that does not go on with it: digits and so on, with
a sign in front or without. -/
def Spells (text : List Char) (value : Document) : Prop :=
  ∃ negative unsigned, text = (if negative then ['-'] else []) ++ unsigned ∧
    ∀ rest, Ends rest → readNumber? negative (unsigned ++ rest) = some (.ok (value, rest))

theorem ends_nil : Ends [] := by
  rintro c ⟨⟩

/-- The text of a number begins with a digit, or with a sign and a digit. -/
theorem Spells.exists_cons {text : List Char} {value : Document} (spells : Spells text value) :
    ∃ c rest, text = c :: rest ∧ (c = '-' ∨ c.isDigit = true) := by
  obtain ⟨negative, unsigned, rfl, read⟩ := spells
  have alone := read [] ends_nil
  rw [List.append_nil] at alone
  obtain ⟨c, rest, rfl, digit⟩ := exists_digit_of_readNumber? alone
  cases negative with
  | true => exact ⟨'-', c :: rest, rfl, Or.inl rfl⟩
  | false => exact ⟨c, rest, rfl, Or.inr digit⟩

theorem Spells.readSimple {text : List Char} {value : Document} (spells : Spells text value)
    {rest : List Char} (ends : Ends rest) : readSimple (text ++ rest) = .ok (value, rest) := by
  obtain ⟨negative, unsigned, rfl, read⟩ := spells
  rw [List.append_assoc]
  exact readSimple_of_readNumber? (read rest ends)

/-- **An integer is read as it is written.** -/
theorem spells_int {n : Int} (short : (spell n.natAbs).length ≤ digitLimit) :
    Spells (spellInt n) (.int n) := by
  refine ⟨n < 0, spell n.natAbs, ?_, fun rest ends => ?_⟩
  · unfold spellInt
    by_cases negative : n < 0 <;> simp [negative]
  · rw [readNumber?_whole (isWhole_spell n.natAbs) ends _ short, Text.takeNatural_spell]
    congr 4
    simp only [decide_eq_true_eq, Nat.zero_mul, Nat.zero_add]
    split <;> omega

/-- **A finite number is read as it is written**, in any layout. -/
theorem spells_float (layout : Layout) {number : Binary64} (finite : number.IsFinite) :
    Spells (layout.write number) (.float number) := by
  cases number with
  | nan => cases finite
  | infinite negative => cases finite
  | finite negative mantissa place =>
    have isNumber : Binary64.IsNumber mantissa place := finite
    rcases Nat.eq_zero_or_pos mantissa with rfl | positive
    · obtain rfl : place = -1074 := isNumber.full.resolve_left (by decide)
      refine ⟨negative, ['0', '.', '0'], rfl, fun rest ends => ?_⟩
      exact readNumber?_point (isWhole_spell 0) ends negative (areDigits_zeros 1) (by simp)
    · refine ⟨negative, _, write_finite layout negative positive, fun rest ends => ?_⟩
      rw [readNumber?_digitsText layout negative
        (Binary64.shortest_value_pos isNumber positive) ends,
        Binary64.shortest_readsBack negative isNumber positive]

end CodeBrief.Json
