/-
**Moments.**

A moment is what a clock reads: a number of microseconds since the beginning of 1970 on that clock,
and by how many minutes the clock is ahead of universal time, if that is known.

* `Moment.civilDate` — the day as year, month and day, by the Gregorian calendar.
* `Moment.write` — the moment as text; microseconds are left out if there are none.
* `Moment.read` — the moment that a text spells.
* `Moment.ofCount`, `Moment.ofNumber` — the moment that a count tells.
-/

import CodeBrief.Binary64.Decimal

namespace CodeBrief

/-- What a clock reads. -/
structure Moment where
  /-- The number of microseconds since the beginning of 1970 on the clock. -/
  micros : Int
  /-- By how many minutes the clock is ahead of universal time, if that is known. -/
  offset : Option Int := some 0
  deriving DecidableEq, Repr, Inhabited

namespace Moment

/-- The number of microseconds in a day. -/
def microsPerDay : Int := 86400000000

/-! ### The calendar -/

/-- The year, month and day of the day with some number, counted from the beginning of 1970. The
days are counted in eras of four hundred years that begin in March. -/
def civilDate (day : Int) : Int × Nat × Nat :=
  let shifted := day + 719468
  let era := shifted.fdiv 146097
  let dayOfEra := (shifted.fmod 146097).toNat
  let yearOfEra := (dayOfEra - dayOfEra / 1460 + dayOfEra / 36524 - dayOfEra / 146096) / 365
  let dayOfYear := dayOfEra - (365 * yearOfEra + yearOfEra / 4 - yearOfEra / 100)
  let marchMonth := (5 * dayOfYear + 2) / 153
  let dayOfMonth := dayOfYear - (153 * marchMonth + 2) / 5 + 1
  let month := if marchMonth < 10 then marchMonth + 3 else marchMonth - 9
  (yearOfEra + era * 400 + (if month ≤ 2 then 1 else 0), month, dayOfMonth)

/-- The number, counted from the beginning of 1970, of a day. -/
def dayNumber (year : Int) (month day : Nat) : Int :=
  let marchYear := if month ≤ 2 then year - 1 else year
  let era := marchYear.fdiv 400
  let yearOfEra := (marchYear.fmod 400).toNat
  let marchMonth := if month ≤ 2 then month + 9 else month - 3
  let dayOfYear := (153 * marchMonth + 2) / 5 + day - 1
  era * 146097 + (yearOfEra * 365 + yearOfEra / 4 - yearOfEra / 100 + dayOfYear : Nat) - 719468

/-- The number of a day, if the calendar has it. -/
def dayNumber? (year month day : Nat) : Option Int :=
  let number := dayNumber year month day
  if civilDate number = (↑year, month, day) then some number else none

/-! ### Writing -/

/-- A number in at least `width` digits. -/
def padded (width n : Nat) : List Char :=
  Binary64.padZeros width (Text.spell n)

/-- The text of the minutes by which a clock is ahead of universal time. -/
def writeOffset : Option Int → List Char
  | none => []
  | some 0 => ['Z']
  | some minutes =>
    (if minutes < 0 then '-' else '+') :: padded 2 (minutes.natAbs / 60) ++ ':' ::
      padded 2 (minutes.natAbs % 60)

/-- The text of a moment. -/
def write (moment : Moment) : String :=
  let (year, month, day) := civilDate (moment.micros.fdiv microsPerDay)
  let within := (moment.micros.fmod microsPerDay).toNat
  let seconds := within / 1000000
  let micros := within % 1000000
  String.ofList <|
    padded 4 year.toNat ++ '-' :: padded 2 month ++ '-' :: padded 2 day ++ 'T' ::
    padded 2 (seconds / 3600) ++ ':' :: padded 2 (seconds / 60 % 60) ++ ':' ::
    padded 2 (seconds % 60) ++ (if micros = 0 then [] else '.' :: padded 6 micros) ++
    writeOffset moment.offset

/-! ### Reading

The functions named `take…?` read something at the head of a text and give it with the rest of the
text. -/

/-- The number below `bound` that exactly `width` digits spell. -/
def takeNumber? (width bound : Nat) (text : List Char) : Option (Nat × List Char) :=
  let digits := text.take width
  let value := (Text.takeNatural 0 digits).1
  if digits.length = width ∧ digits.all Char.isDigit ∧ value < bound then
    some (value, text.drop width)
  else none

/-- One of some marks. -/
def takeMark? (marks : List Char) : List Char → Option (Char × List Char)
  | c :: rest => if marks.contains c then some (c, rest) else none
  | [] => none

/-- A day as year, month and day. -/
def takeDay? (text : List Char) : Option (Int × List Char) := do
  let (year, rest) ← takeNumber? 4 10000 text
  let (_, rest) ← takeMark? ['-'] rest
  let (month, rest) ← takeNumber? 2 13 rest
  let (_, rest) ← takeMark? ['-'] rest
  let (day, rest) ← takeNumber? 2 32 rest
  let number ← dayNumber? year month day
  return (number, rest)

/-- The microseconds of a fraction of a second, of which six digits count; nought without one. -/
def takeMicros? (text : List Char) : Option (Nat × List Char) :=
  match takeMark? ['.', ','] text with
  | none => some (0, text)
  | some (_, rest) =>
    let digits := rest.takeWhile Char.isDigit
    if digits.isEmpty then none
    else some ((Text.takeNatural 0 ((digits ++ List.replicate 6 '0').take 6)).1,
      rest.drop digits.length)

/-- The microseconds of the seconds with their fraction; nought without them. -/
def takeSeconds? (text : List Char) : Option (Nat × List Char) :=
  match takeMark? [':'] text with
  | none => some (0, text)
  | some (_, rest) => do
    let (second, rest) ← takeNumber? 2 60 rest
    let (micros, rest) ← takeMicros? rest
    return (second * 1000000 + micros, rest)

/-- The microseconds from midnight to a time of day. -/
def takeTime? (text : List Char) : Option (Nat × List Char) := do
  let (hour, rest) ← takeNumber? 2 24 text
  let (_, rest) ← takeMark? [':'] rest
  let (minute, rest) ← takeNumber? 2 60 rest
  let (micros, rest) ← takeSeconds? rest
  return ((hour * 60 + minute) * 60000000 + micros, rest)

/-- The minutes by which a clock is ahead of universal time, unless the text ends before them. -/
def takeOffset? (text : List Char) : Option (Option Int × List Char) :=
  match text with
  | [] => some (none, [])
  | mark :: rest =>
    if mark = 'Z' ∨ mark = 'z' then some (some 0, rest)
    else if mark = '+' ∨ mark = '-' ∨ mark = '−' then do
      let (hours, rest) ← takeNumber? 2 24 rest
      let (minutes, rest) ← takeNumber? 2 60 (if rest.head? = some ':' then rest.drop 1 else rest)
      let size : Int := hours * 60 + minutes
      return (some (if mark = '+' then size else -size), rest)
    else none

/-- The moment that a day, with or without a time of day, spells. A day alone begins at midnight. -/
def readDay? (text : List Char) : Option Moment := do
  let (day, rest) ← takeDay? text
  if rest.isEmpty then return ⟨day * microsPerDay, none⟩
  let (_, rest) ← takeMark? ['T', 't', ' ', '_'] rest
  let (micros, rest) ← takeTime? rest
  let (offset, rest) ← takeOffset? rest
  if rest.isEmpty then return ⟨day * microsPerDay + micros, offset⟩ else none

/-! ### Counts

A moment may also be told by a count of seconds since the beginning of 1970, universal time, or by a
large count of milliseconds. -/

/-- Why a text or a count tells no moment. -/
inductive Fault where
  /-- The text is too short. -/
  | tooShort
  /-- What follows the day is no time of day. -/
  | extraCharacters
  /-- The year is not spelt in digits. -/
  | yearDigits
  /-- The month is not spelt in digits. -/
  | monthDigits
  /-- The day is not spelt in digits. -/
  | dayDigits
  /-- The parts of the day are not separated by hyphens. -/
  | separator
  /-- There is no such month. -/
  | noMonth
  /-- The month has no such day. -/
  | noDay
  /-- The count leads too far back. -/
  | tooEarly
  /-- The count leads too far ahead. -/
  | tooLate
  /-- The count is not a number. -/
  | notANumber
  /-- The year is nought. -/
  | yearNought
  deriving DecidableEq, Repr

/-- The wording of a fault. -/
def Fault.message : Fault → String
  | .tooShort => "input is too short"
  | .extraCharacters => "unexpected extra characters at the end of the input"
  | .yearDigits => "invalid character in year"
  | .monthDigits => "invalid character in month"
  | .dayDigits => "invalid character in day"
  | .separator => "invalid date separator, expected `-`"
  | .noMonth => "month value is outside expected range of 1-12"
  | .noDay => "day value is outside expected range"
  | .tooEarly => "dates before 1600 are not supported as unix timestamps"
  | .tooLate => "dates after 9999 are not supported as unix timestamps"
  | .notANumber => "NaN values not permitted"
  | .yearNought => "year 0 is out of range"

/-- The largest count of seconds; a larger one counts milliseconds. -/
def secondsLimit : Nat := 20000000000

/-- The first second that a count may lead to. -/
def firstSecond : Int := -11676096000

/-- The last second that a count may lead to. -/
def lastSecond : Int := 253402300799

/-- The moment that lies `more` microseconds after a count. -/
def ofCount (count : Int) (more : Nat) : Except Fault Moment :=
  let micros := (if secondsLimit < count.natAbs then count * 1000 else count * 1000000) + more
  let second := micros.fdiv 1000000
  if second < firstSecond then .error .tooEarly
  else if lastSecond < second then .error .tooLate
  else .ok { micros }

/-- The nearest number of millionths in a fraction. -/
def millionths (num den : Nat) : Nat :=
  (num * 2000000 + den) / (2 * den)

/-- The moment that a fractional count tells. -/
def ofNumber : Binary64 → Except Fault Moment
  | .finite negative mantissa exponent =>
    let (num, den) := Binary64.fraction negative mantissa exponent
    ofCount (num.fdiv den) (millionths (num.natAbs % den) den)
  | .infinite negative => .error (if negative then .tooEarly else .tooLate)
  | .nan => .error .notANumber

/-- The number of seconds in a fractional count. -/
def secondsIn (num : Int) (den : Nat) : Binary64 :=
  Binary64.roundFraction (decide (num < 0)) num.natAbs
    (if secondsLimit * den < num.natAbs then den * 1000 else den)

/-- The moment that the text of a fractional count tells. A large count is turned into seconds
first. -/
def ofSpeltNumber? : Binary64 → Option Moment
  | .finite negative mantissa exponent =>
    let (num, den) := Binary64.fraction negative mantissa exponent
    match secondsIn num den with
    | .finite negative mantissa exponent =>
      let (num, den) := Binary64.fraction negative mantissa exponent
      (ofCount (num.fdiv den) (millionths (num.fmod den).toNat den)).toOption
    | _ => none
  | _ => none

/-- The whole number that digits, perhaps after a sign, spell. -/
def readCount? (text : List Char) : Option Int :=
  let digits := if text.head? = some '-' ∨ text.head? = some '+' then text.drop 1 else text
  let (value, rest) := Text.takeNatural 0 digits
  if digits.isEmpty || !rest.isEmpty then none
  else some (if text.head? = some '-' then -(value : Int) else value)

/-- The number that digits around a point, perhaps after a sign, spell. -/
def readSpeltNumber? (text : List Char) : Option Binary64 :=
  let unsigned := if text.head? = some '-' ∨ text.head? = some '+' then text.drop 1 else text
  let whole := unsigned.takeWhile Char.isDigit
  match unsigned.drop whole.length with
  | '.' :: places =>
    if places.all Char.isDigit ∧ ¬ (whole ++ places).isEmpty then
      some (.ofDecimal (text.head? = some '-') (Text.takeNatural 0 (whole ++ places)).1
        (-places.length))
    else none
  | _ => none

/-- The bound of the counts that can be read. -/
def countBound : Int := Int.pow 2 63

/-- The moment that a text tells by a count, if it does. -/
def readByCount? (text : List Char) : Option (Except Fault Moment) :=
  match readCount? text with
  | some count => if -countBound ≤ count ∧ count < countBound then some (ofCount count 0) else none
  | none => ((readSpeltNumber? text).bind ofSpeltNumber?).map .ok

/-- The number of bytes in the text of a day. -/
def dayBytes : Nat := 10

/-- What is wrong with a text that should spell a day, by its first characters. -/
def dayFault (text : List Char) : Fault :=
  let isDigitAt := fun i => (text[i]?).any Char.isDigit
  let numberAt := fun i width => (Text.takeNatural 0 ((text.drop i).take width)).1
  if (String.ofList text).utf8ByteSize < dayBytes then .tooShort
  else if !([0, 1, 2, 3].all isDigitAt) then .yearDigits
  else if text[4]? ≠ some '-' then .separator
  else if !([5, 6].all isDigitAt) then .monthDigits
  else if text[7]? ≠ some '-' then .separator
  else if !([8, 9].all isDigitAt) then .dayDigits
  else if numberAt 5 2 < 1 ∨ 12 < numberAt 5 2 then .noMonth
  else if (dayNumber? (numberAt 0 4) (numberAt 5 2) (numberAt 8 2)).isNone then .noDay
  else .extraCharacters

/-- The year of a moment. -/
def year (moment : Moment) : Int :=
  (civilDate (moment.micros.fdiv microsPerDay)).1

/-- The moment that a text spells: a day, with or without a time of day, or a count. -/
def read (text : String) : Except Fault Moment :=
  match readDay? text.toList, readByCount? text.toList with
  | some moment, _ => if moment.year = 0 then .error .yearNought else .ok moment
  | none, some result => result
  | none, none => .error (dayFault text.toList)

end Moment

end CodeBrief
