/-
**Reading typed fields.**

Settings and other records are read from JSON objects. A field takes a value of its type and also
some values of other types that can be read as one: the text of a number, a whole fractional number,
a truth value as nought or one, a word for a truth value. Every field that cannot be read is
reported, with its place.

* `Fault` — what is wrong with a value; `Fault.message` — its wording.
* `readText`, `readWhole`, `readNumber`, `readTruth`, `readMoment` — the values of each type.
* `Checked` — a value or all that is wrong, put together field by field.
-/

import CodeBrief.Json.Value
import CodeBrief.Ledger
import CodeBrief.Session.Moment

namespace CodeBrief.Settings

open Json (Value)

/-! ### Faults -/

/-- One step on the way to a value. -/
inductive Step where
  /-- The member with some name. -/
  | member (name : String)
  /-- The item with some number. -/
  | item (number : Nat)
  deriving DecidableEq, Repr

/-- What is wrong with a value. -/
inductive Fault where
  /-- It is missing. -/
  | missing
  /-- It is no text. -/
  | notText
  /-- It is no whole number. -/
  | notWhole
  /-- It is a text that spells no whole number. -/
  | unreadableWhole
  /-- It stands for a whole number that is too large, or has too many digits, to be read. -/
  | oversizedWhole
  /-- It has a fractional part. -/
  | fractional
  /-- It is infinite or not a number. -/
  | notFinite
  /-- It is below the least value. -/
  | belowLeast (least : Int)
  /-- It is above the greatest value. -/
  | aboveGreatest (greatest : Int)
  /-- It is not below the limit. -/
  | notBelow (limit : Int)
  /-- It is no number. -/
  | notNumber
  /-- It is a text that spells no number. -/
  | unreadableNumber
  /-- It is no truth value. -/
  | notTruth
  /-- It is a text or number that stands for no truth value. -/
  | unreadableTruth
  /-- It is neither a text nor a count that could tell a moment. -/
  | notMoment
  /-- It is a count that tells no moment, or tells one that cannot be kept. -/
  | unreadableMoment (fault : Moment.Fault)
  /-- It is a text that spells neither a moment nor a day. -/
  | unreadableDay (fault : Moment.Fault)
  /-- It is no list. -/
  | notList
  /-- It is no object. -/
  | notLedger
  /-- It is no section of some kind. -/
  | notSection (kind : String)
  /-- It is none of the words that are allowed. -/
  | notAmong (choices : List String)
  /-- It is none of the names of some things. -/
  | notNamed (names : List String)
  deriving DecidableEq, Repr

/-- Some words between quotes, with a word before the last one. -/
def alternatives (conjunction : String) : List String → String
  | [] => ""
  | [word] => "'" ++ word ++ "'"
  | [word, last] => "'" ++ word ++ "' " ++ conjunction ++ " '" ++ last ++ "'"
  | word :: rest => "'" ++ word ++ "', " ++ alternatives conjunction rest

/-- The wording of a fault. -/
def Fault.message : Fault → String
  | .missing => "Field required"
  | .notText => "Input should be a valid string"
  | .notWhole => "Input should be a valid integer"
  | .unreadableWhole => "Input should be a valid integer, unable to parse string as an integer"
  | .oversizedWhole => "Unable to parse input string as an integer, exceeded maximum size"
  | .fractional => "Input should be a valid integer, got a number with a fractional part"
  | .notFinite => "Input should be a finite number"
  | .belowLeast least =>
    "Input should be greater than or equal to " ++ String.ofList (Text.spellInt least)
  | .aboveGreatest greatest =>
    "Input should be less than or equal to " ++ String.ofList (Text.spellInt greatest)
  | .notBelow limit => "Input should be less than " ++ String.ofList (Text.spellInt limit)
  | .notNumber => "Input should be a valid number"
  | .unreadableNumber => "Input should be a valid number, unable to parse string as a number"
  | .notTruth => "Input should be a valid boolean"
  | .unreadableTruth => "Input should be a valid boolean, unable to interpret input"
  | .notMoment => "Input should be a valid datetime"
  | .unreadableMoment fault => "Input should be a valid datetime, " ++ fault.message
  | .unreadableDay fault => "Input should be a valid datetime or date, " ++ fault.message
  | .notList => "Input should be a valid list"
  | .notLedger => "Input should be a valid dictionary"
  | .notSection kind => "Input should be a valid dictionary or instance of " ++ kind
  | .notAmong choices => "Input should be " ++ alternatives "or" choices
  | .notNamed names => "Input should be " ++ alternatives "or" names

/-- A fault, the way to the value that has it, and the value. -/
structure Issue where
  /-- The way to the value. -/
  place : List Step
  /-- What is wrong with it. -/
  fault : Fault
  /-- The value, or that in which it is missing. -/
  value : Value
  deriving Repr

/-! ### Values of one type -/

/-- Whether `c` is a blank around the text of a number. -/
def isMargin (c : Char) : Bool :=
  Text.isBlank c && !(28 ≤ c.toNat && c.toNat ≤ 31)

/-- A text without the blanks at its ends. -/
def trimMargins (text : List Char) : List Char :=
  Text.trimRight isMargin (text.dropWhile isMargin)

/-- A text without a sign in front, and whether that is a minus sign. -/
def splitSign : List Char → Bool × List Char
  | '-' :: rest => (true, rest)
  | '+' :: rest => (false, rest)
  | text => (false, text)

/-- A text without underscores, unless one of these does not stand between two other characters. -/
def joinGroups? (text : List Char) : Option (List Char) :=
  let groups := Text.pieces (· == '_') text
  if groups.any List.isEmpty then none else some groups.flatten

/-- The greatest number of characters in the plain spelling of a whole number. -/
def longestWhole : Nat := 4300

/-- The whole number that a text spells plainly: digits without a needless zero in front, and at
most a minus sign before them. -/
def plainWhole (text : List Char) : Except Fault Int :=
  let (negative, unsigned) := match text with
    | '-' :: rest => (true, rest)
    | text => (false, text)
  let digits := unsigned.takeWhile Char.isDigit
  if digits.isEmpty || (digits.head? == some '0' && 1 < digits.length) then .error .unreadableWhole
  else if longestWhole < text.length - unsigned.length + digits.length then .error .oversizedWhole
  else if digits.length < unsigned.length then .error .unreadableWhole
  else
    let value : Int := (Text.takeNatural 0 digits).1
    .ok (if negative then -value else value)

/-- A text without a plus sign in front, unless a minus sign follows it. -/
def dropPlus? : List Char → Option (List Char)
  | '+' :: '-' :: _ => none
  | '+' :: rest => some rest
  | text => some text

/-- Whether `c` may begin what is left of a number without its zeros. -/
def beginsWhole (c : Char) : Bool :=
  c == '-' || c.isDigit

/-- A text without zeros in front, and without underscores among these; a zero stays before a point
and at the end. Nothing is given if neither a digit nor a minus sign follows. -/
def dropLeadingZeros? (text : List Char) : Option (List Char) :=
  let zeros := if text.head? == some '0' then text.takeWhile fun c => c == '0' || c == '_' else []
  match text.drop zeros.length with
  | [] => zeros.getLast?.map fun last => [last]
  | '.' :: rest => zeros.getLast?.map fun last => last :: '.' :: rest
  | c :: rest => if beginsWhole c then some (c :: rest) else none

/-- The text of a whole number without a point and the zeros behind it; there is at least one. -/
def dropZeroPlaces (text : List Char) : List Char :=
  match text.dropWhile (· != '.') with
  | '.' :: place :: places =>
    if (place :: places).all (· == '0') then text.takeWhile (· != '.') else text
  | _ => text

/-- The plain spelling of a whole number that is written with blanks around it, a plus sign or zeros
in front, zeros behind a point, or underscores. -/
def plainSpelling? (text : List Char) : Option (List Char) :=
  ((dropPlus? (trimMargins text)).bind dropLeadingZeros?).bind fun digits =>
    joinGroups? (dropZeroPlaces digits)

/-- The whole number that a text spells. That a number is too long is told only of one that is spelt
plainly. -/
def wholeOfText (text : String) : Except Fault Int :=
  match plainWhole text.toList with
  | .error .unreadableWhole => match plainSpelling? text.toList with
    | some spelling => (plainWhole spelling).mapError fun _ => .unreadableWhole
    | none => .error .unreadableWhole
  | result => result

/-- The bound of the whole numbers that fit a word of the machine. -/
def wordBound : Int := Int.pow 2 63

/-- The whole number that a fractional one stands for. -/
def wholeOfNumber : Binary64 → Except Fault Int
  | .finite negative mantissa exponent =>
    match (Binary64.finite negative mantissa exponent).toInt? with
    | some whole =>
      if -wordBound < whole ∧ whole < wordBound then .ok whole else .error .oversizedWhole
    | none => .error .fractional
  | _ => .error .notFinite

/-- The whole number that a value stands for. -/
def readWhole : Value → Except Fault Int
  | .int value => .ok value
  | .bool value => .ok (if value then 1 else 0)
  | .float value => wholeOfNumber value
  | .string text => wholeOfText text
  | _ => .error .notWhole

/-- The number that the text of a number without sign spells: digits with at most one point among
or around them, and an exponent. -/
def plainNumber? (negative : Bool) (text : List Char) : Option Binary64 :=
  let whole := text.takeWhile Char.isDigit
  let rest := text.dropWhile Char.isDigit
  let (places, rest) := match rest with
    | '.' :: after => (after.takeWhile Char.isDigit, after.dropWhile Char.isDigit)
    | _ => ([], rest)
  if whole.isEmpty && places.isEmpty then none
  else
    let value := (Text.takeNatural 0 (whole ++ places)).1
    match rest with
    | [] => some (.ofDecimal negative value (-places.length))
    | mark :: exponent =>
      let (down, digits) := splitSign exponent
      if (mark = 'e' ∨ mark = 'E') ∧ !digits.isEmpty ∧ digits.all Char.isDigit then
        let size : Int := (Text.takeNatural 0 digits).1
        some (.ofDecimal negative value ((if down then -size else size) - places.length))
      else none

/-- The number that a text spells; the words for infinity and for what is not a number may be
written in any case. -/
def numberOfText? (text : List Char) : Option Binary64 :=
  let (negative, unsigned) := splitSign text
  let word := String.ofList (unsigned.map Char.toLower)
  if word = "nan" then some .nan
  else if word = "inf" ∨ word = "infinity" then some (.infinite negative)
  else plainNumber? negative unsigned

/-- The number that a value stands for. A text may have blanks around it or underscores in it, but
not both. -/
def readNumber : Value → Except Fault Binary64
  | .float value => .ok value
  | .int value =>
    match Binary64.ofInt? value with
    | some number => .ok number
    | none => .error .notNumber
  | .bool value => .ok (.ofNat (if value then 1 else 0))
  | .string text =>
    match numberOfText? (trimMargins text.toList) with
    | some number => .ok number
    | none => match (joinGroups? text.toList).bind numberOfText? with
      | some number => .ok number
      | none => .error .unreadableNumber
  | _ => .error .notNumber

/-- The words for the truth values, in lower case. -/
def truthWords : List (String × Bool) :=
  [("0", false), ("off", false), ("f", false), ("false", false), ("n", false), ("no", false),
    ("1", true), ("on", true), ("t", true), ("true", true), ("y", true), ("yes", true)]

/-- The truth value that a whole number stands for. -/
def truthOfWhole (n : Int) : Except Fault Bool :=
  if n < -wordBound ∨ wordBound ≤ n then .error .notTruth
  else if n = 0 then .ok false else if n = 1 then .ok true else .error .unreadableTruth

/-- The truth value that a value stands for. -/
def readTruth : Value → Except Fault Bool
  | .bool value => .ok value
  | .string text =>
    match truthWords.lookup (String.ofList (text.toList.map Char.toLower)) with
    | some value => .ok value
    | none => .error .unreadableTruth
  | .int value => truthOfWhole value
  | .float value =>
    match wholeOfNumber value with
    | .ok whole => truthOfWhole whole
    | .error _ => .error .notTruth
  | _ => .error .notTruth

/-- The moment that a value tells. -/
def readMoment : Value → Except Fault Moment
  | .string text =>
    (Moment.read text).mapError fun fault =>
      if fault = .yearNought then .unreadableMoment fault else .unreadableDay fault
  | .int count =>
    if (Binary64.ofInt? count).isSome then (Moment.ofCount count 0).mapError .unreadableMoment
    else .error .notMoment
  | .float count => (Moment.ofNumber count).mapError .unreadableMoment
  | _ => .error .notMoment

/-- The thing of some kind that a value names; `named` are all of them with their names. -/
def readNamed {α : Type} (named : List (String × α)) : Value → Except Fault α
  | .string name =>
    match named.lookup name with
    | some thing => .ok thing
    | none => .error (.notNamed (named.map Prod.fst))
  | _ => .error (.notNamed (named.map Prod.fst))

/-- The text that a value is. -/
def readText : Value → Except Fault String
  | .string text => .ok text
  | _ => .error .notText

/-! ### Bounds -/

/-- A whole number that is not below `least`. -/
def atLeast (least : Int) (n : Int) : Except Fault Int :=
  if n < least then .error (.belowLeast least) else .ok n

/-- A whole number that is not above `greatest`. -/
def atMost (greatest : Int) (n : Int) : Except Fault Int :=
  if greatest < n then .error (.aboveGreatest greatest) else .ok n

/-- A number from nought to below one. -/
def asShare (share : Binary64) : Except Fault Binary64 :=
  if !share.lt (.ofNat 1) then .error (.notBelow 1)
  else if share.lt (.ofNat 0) then .error (.belowLeast 0)
  else .ok share

/-! ### Records -/

/-- A value, or all that is wrong. -/
abbrev Checked (α : Type) := Except (List Issue) α

namespace Checked

/-- A record with one more field; the issues of the earlier fields come first. -/
def plus {α β : Type} (value : Checked α) (record : Checked (α → β)) : Checked β :=
  match record, value with
  | .ok make, .ok value => .ok (make value)
  | .ok _, .error issues => .error issues
  | .error issues, .ok _ => .error issues
  | .error issues, .error more => .error (issues ++ more)

/-- The issues of a part of a record, with the step that leads to the part in front. -/
def under {α : Type} (step : Step) (value : Checked α) : Checked α :=
  value.mapError fun issues => issues.map fun issue => { issue with place := step :: issue.place }

/-- What is read from a value, or the one thing that is wrong with it. -/
def ofResult {α : Type} (value : Value) (result : Except Fault α) : Checked α :=
  result.mapError fun fault => [⟨[], fault, value⟩]

end Checked

/-- The member `name` of some members as `read` takes it, or `absent` if there is none. -/
def memberOr {α : Type} (members : List (String × Value)) (name : String)
    (read : Value → Checked α) (absent : Checked α) : Checked α :=
  Checked.under (.member name) (match members.lookup name with
    | some value => read value
    | none => absent)

/-- The member `name` of some members, or a default. -/
def optional {α : Type} (members : List (String × Value)) (name : String)
    (read : Value → Checked α) (otherwise : α) : Checked α :=
  memberOr members name read (.ok otherwise)

/-- The member `name` of some members, which must be there. -/
def required {α : Type} (members : List (String × Value)) (name : String)
    (read : Value → Checked α) : Checked α :=
  memberOr members name read (.error [⟨[], .missing, .object members⟩])

/-- The items of a list as `read` takes them, numbered from `number` on. -/
def readItems {α : Type} (read : Value → Checked α) : (number : Nat) → List Value →
    Checked (List α)
  | _, [] => .ok []
  | number, item :: rest =>
    (Checked.under (.item number) (read item)).map List.cons |>
      Checked.plus (readItems read (number + 1) rest)

/-- A list of what `read` takes. -/
def readList {α : Type} (read : Value → Checked α) : Value → Checked (List α)
  | .array items => readItems read 0 items
  | value => .error [⟨[], .notList, value⟩]

/-- The members of an object as `read` takes them. -/
def readMembers {α : Type} (read : Value → Checked α) : List (String × Value) →
    Checked (List (String × α))
  | [] => .ok []
  | (name, value) :: rest =>
    (Checked.under (.member name) (read value)).map (fun value => List.cons (name, value)) |>
      Checked.plus (readMembers read rest)

/-- A ledger of what `read` takes. -/
def readLedger {α : Type} (read : Value → Checked α) : Value → Checked (Ledger α)
  | .object members => (readMembers read (Ledger.ofList members).entries).map Ledger.ofList
  | value => .error [⟨[], .notLedger, value⟩]

/-- What `read` takes, or nothing in the place of null. -/
def readOption {α : Type} (read : Value → Checked α) : Value → Checked (Option α)
  | .null => .ok none
  | value => (read value).map some

/-- The members of a section of some kind as `read` takes them. -/
def readSection {α : Type} (kind : String) (read : List (String × Value) → Checked α) :
    Value → Checked α
  | .object members => read members
  | value => .error [⟨[], .notSection kind, value⟩]

/-! ### Fields -/

/-- A text. -/
def textField (value : Value) : Checked String :=
  .ofResult value (readText value)

/-- A whole number. -/
def wholeField (value : Value) : Checked Int :=
  .ofResult value (readWhole value)

/-- A number. -/
def numberField (value : Value) : Checked Binary64 :=
  .ofResult value (readNumber value)

/-- A truth value. -/
def truthField (value : Value) : Checked Bool :=
  .ofResult value (readTruth value)

/-- A moment. -/
def momentField (value : Value) : Checked Moment :=
  .ofResult value (readMoment value)

/-- Something of a kind whose things have names. -/
def namedField {α : Type} (named : List (String × α)) (value : Value) : Checked α :=
  .ofResult value (readNamed named value)

/-- A list of texts. -/
def textsField : Value → Checked (List String) :=
  readList textField

end CodeBrief.Settings
