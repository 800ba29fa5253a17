/-
**Reading JSON.**

The text of a value, with blanks around its parts, is read from the left. Beyond the standard the
names `NaN`, `Infinity` and `-Infinity` are numbers, and half of a surrogate pair may be escaped
without the other half. A name that an object repeats keeps its first place and takes its last
value. A whole number has at most 4300 digits. Lists and objects may be nested as deep as there is
room for, which depends on what is under way when reading begins.

* `readDocument` — the value that a text spells, or what is wrong with it and where.
* `parse` — the same, with a replacement character for every half of a pair.
* `ReadError.message` — the wording of an error, with its line and column.
-/

import CodeBrief.Json.Value

namespace CodeBrief.Json

/-! ### Errors -/

/-- What is wrong with a text that is not JSON. -/
inductive Problem where
  /-- The text begins with a byte-order mark. -/
  | byteOrderMark
  /-- A value is missing. -/
  | noValue
  /-- The name of a member is missing. -/
  | noName
  /-- The colon after a name is missing. -/
  | noColon
  /-- The comma between two items is missing. -/
  | noComma
  /-- A text does not end; the place is its opening quote. -/
  | openString
  /-- A text holds a control character. -/
  | controlCharacter
  /-- A backslash stands before a character that it cannot escape. -/
  | badEscape
  /-- A numeric escape lacks its four digits. -/
  | badUnicodeEscape
  /-- More text follows the value. -/
  | extraText
  deriving DecidableEq, Repr

/-- The wording of a problem. -/
def Problem.message : Problem → String
  | .byteOrderMark => "Unexpected UTF-8 BOM (decode using utf-8-sig)"
  | .noValue => "Expecting value"
  | .noName => "Expecting property name enclosed in double quotes"
  | .noColon => "Expecting ':' delimiter"
  | .noComma => "Expecting ',' delimiter"
  | .openString => "Unterminated string starting at"
  | .controlCharacter => "Invalid control character at"
  | .badEscape => "Invalid \\escape"
  | .badUnicodeEscape => "Invalid \\uXXXX escape"
  | .extraText => "Extra data"

/-- A kind of value that holds other values. -/
inductive Container where
  /-- A list. -/
  | array
  /-- An object. -/
  | object
  deriving DecidableEq, Repr

/-- The name of a kind. -/
def Container.name : Container → String
  | .array => "array"
  | .object => "object"

/-- Why a text is not read. -/
inductive ReadError where
  /-- The text is not JSON. -/
  | malformed (problem : Problem) (line column position : Nat)
  /-- A whole number has too many digits. -/
  | oversizedInteger (digits : Nat)
  /-- A list or an object is nested too deep. -/
  | tooDeep (container : Container)
  deriving DecidableEq, Repr

/-- The number of lists and objects within each other for which there is room if little else is
under way. -/
def usualRoom : Nat := 975

/-- The wording of an error. -/
def ReadError.message : ReadError → String
  | .malformed problem line column position =>
    s!"{problem.message}: line {line} column {column} (char {position})"
  | .oversizedInteger digits =>
    s!"Exceeds the limit ({Text.digitLimit} digits) for integer string conversion: " ++
      s!"value has {digits} digits; use sys.set_int_max_str_digits() to increase the limit"
  | .tooDeep container =>
    s!"maximum recursion depth exceeded while decoding a JSON {container.name} " ++
      "from a unicode string"

/-- Why reading stops: a problem with the number of characters from its place to the end of the
text, a number with too many digits, or values that are nested too deep. -/
inductive Fault where
  /-- A problem with the number of characters from its place on. -/
  | stuck (problem : Problem) (remaining : Nat)
  /-- A whole number with too many digits. -/
  | oversized (digits : Nat)
  /-- A list or an object beyond the largest depth. -/
  | deep (container : Container)
  deriving DecidableEq, Repr

/-- What is read from the head of a text, and the rest of the text. -/
abbrev Step (α : Type) := Except Fault (α × List Char)

/-! ### Texts -/

/-- Whether `c` may stand between the parts of a value. -/
def isSpace (c : Char) : Bool :=
  c == ' ' || c == '\t' || c == '\n' || c == '\r'

/-- `text` without the blanks at its head. -/
def skipSpace (text : List Char) : List Char :=
  text.dropWhile isSpace

/-- The value of a hexadecimal digit. -/
def hexValue? (c : Char) : Option Nat :=
  if '0' ≤ c ∧ c ≤ '9' then some (c.toNat - 48)
  else if 'a' ≤ c ∧ c ≤ 'f' then some (c.toNat - 87)
  else if 'A' ≤ c ∧ c ≤ 'F' then some (c.toNat - 55)
  else none

/-- The value of the four hexadecimal digits at the head of a text that is longer than that. -/
def hexUnit? : List Char → Option Nat
  | a :: b :: c :: d :: _ :: _ => do
    let a ← hexValue? a
    let b ← hexValue? b
    let c ← hexValue? c
    let d ← hexValue? d
    return ((a * 16 + b) * 16 + c) * 16 + d
  | _ => none

/-- Whether `unit` is the first half of a surrogate pair. -/
def isHighSurrogate (unit : Nat) : Bool := 0xD800 ≤ unit && unit < 0xDC00

/-- Whether `unit` is the second half of a surrogate pair. -/
def isLowSurrogate (unit : Nat) : Bool := 0xDC00 ≤ unit && unit < 0xE000

/-- The code point of the numeric escape whose digits stand at the head of `text`, and the number
of characters it takes from there. The two halves of a surrogate pair make one character. -/
def unicodeEscape (text : List Char) : Except Fault (CodePoint × Nat) :=
  match hexUnit? text with
  | none => .error (.stuck .badUnicodeEscape (text.length + 1))
  | some unit =>
    match isHighSurrogate unit, text.drop 4 with
    | true, '\\' :: 'u' :: more =>
      if more.length ≤ 4 then .ok (.ofNat unit, 4)
      else match hexUnit? more with
        | none => .error (.stuck .badUnicodeEscape (more.length + 1))
        | some second =>
          if isLowSurrogate second then
            .ok (.ofNat (0x10000 + (unit - 0xD800) * 0x400 + (second - 0xDC00)), 10)
          else .ok (.ofNat unit, 4)
    | _, _ => .ok (.ofNat unit, 4)

/-- The code point that a backslash before `text` stands for, and the number of characters that the
escape takes from `text`; `opened` is the number of characters from the opening quote on. -/
def escape (opened : Nat) : List Char → Except Fault (CodePoint × Nat)
  | [] => .error (.stuck .openString opened)
  | 'u' :: rest => (unicodeEscape rest).map fun (point, size) => (point, size + 1)
  | '"' :: _ => .ok (.char '"', 1)
  | '\\' :: _ => .ok (.char '\\', 1)
  | '/' :: _ => .ok (.char '/', 1)
  | 'b' :: _ => .ok (.char (Char.ofNat 8), 1)
  | 'f' :: _ => .ok (.char (Char.ofNat 12), 1)
  | 'n' :: _ => .ok (.char '\n', 1)
  | 'r' :: _ => .ok (.char '\r', 1)
  | 't' :: _ => .ok (.char '\t', 1)
  | c :: rest => .error (.stuck .badEscape ((c :: rest).length + 1))

/-- The text up to the closing quote, after leaving out `skip` characters. -/
def readText (opened : Nat) : (skip : Nat) → List Char → Step (List CodePoint)
  | _, [] => .error (.stuck .openString opened)
  | skip + 1, _ :: rest => readText opened skip rest
  | 0, '"' :: rest => .ok ([], rest)
  | 0, '\\' :: rest =>
    match escape opened rest with
    | .error fault => .error fault
    | .ok (point, size) =>
      (readText opened size rest).map fun (text, after) => (point :: text, after)
  | 0, c :: rest =>
    if c.toNat < 32 then .error (.stuck .controlCharacter (c :: rest).length)
    else (readText opened 0 rest).map fun (text, after) => (.char c :: text, after)

/-- The text whose opening quote has been read. -/
def readString (rest : List Char) : Step CodeText :=
  (readText (rest.length + 1) 0 rest).map fun (text, after) => (⟨text⟩, after)

/-! ### Numbers -/

/-- The ASCII digits at the head of a text and the rest of it. -/
def spanDigits (text : List Char) : List Char × List Char :=
  (text.takeWhile Char.isDigit, text.dropWhile Char.isDigit)

/-- The digits of the whole part at the head of a text: a single zero, or no zero in front. -/
def readWhole? : List Char → Option (List Char × List Char)
  | '0' :: rest => some (['0'], rest)
  | c :: rest => if c.isDigit then some (spanDigits (c :: rest)) else none
  | [] => none

/-- The digits after a point at the head of a text; none if no digit follows the point. -/
def readPlaces : List Char → List Char × List Char
  | '.' :: c :: rest => if c.isDigit then spanDigits (c :: rest) else ([], '.' :: c :: rest)
  | text => ([], text)

/-- The exponent at the head of a text, if there is one. -/
def readExponent? : List Char → Option (Int × List Char)
  | [] => none
  | mark :: rest =>
    if mark = 'e' ∨ mark = 'E' then
      let (negative, unsigned) := match rest with
        | '-' :: after => (true, after)
        | '+' :: after => (false, after)
        | text => (false, text)
      let (digits, after) := spanDigits unsigned
      if digits.isEmpty then none
      else
        let size : Int := (Text.takeNatural 0 digits).1
        some (if negative then -size else size, after)
    else none

/-- The number at the head of a text whose sign has been read, if there is one. -/
def readNumber? (negative : Bool) (text : List Char) : Option (Step Document) :=
  match readWhole? text with
  | none => none
  | some (whole, rest) =>
    let (places, rest) := readPlaces rest
    let value := (Text.takeNatural 0 (whole ++ places)).1
    match readExponent? rest with
    | some (exponent, rest) =>
      some (.ok (.float (Binary64.ofDecimal negative value (exponent - places.length)), rest))
    | none =>
      if places.isEmpty then
        if Text.digitLimit < whole.length then some (.error (.oversized whole.length))
        else some (.ok (.int (if negative then -(value : Int) else value), rest))
      else some (.ok (.float (Binary64.ofDecimal negative value (-places.length)), rest))

/-- The words that are values. -/
def namedValues : List (List Char × Document) :=
  [("null".toList, .null), ("true".toList, .bool true), ("false".toList, .bool false),
    ("NaN".toList, .float .nan), ("Infinity".toList, .float (.infinite false)),
    ("-Infinity".toList, .float (.infinite true))]

/-- The value at the head of a text that is neither a text nor a list nor an object. -/
def readSimple (text : List Char) : Step Document :=
  match namedValues.find? fun (name, _) => name.isPrefixOf text with
  | some (name, value) => .ok (value, text.drop name.length)
  | none =>
    let number? := match text with
      | '-' :: rest => readNumber? true rest
      | _ => readNumber? false text
    match number? with
    | some step => step
    | none => .error (.stuck .noValue text.length)

/-! ### Values -/

mutual

/-- The value at the head of a text; `room` is the number of lists and objects that may be nested in
it, and `fuel` bounds the number of steps. -/
def readValue (room : Nat) : (fuel : Nat) → List Char → Step Document
  | 0, text => .error (.stuck .noValue text.length)
  | fuel + 1, text =>
    match text with
    | '"' :: rest => (readString rest).map fun (value, after) => (.string value, after)
    | '[' :: rest =>
      if room = 0 then .error (.deep .array)
      else match skipSpace rest with
        | ']' :: after => .ok (.array [], after)
        | items => (readItems (room - 1) fuel items).map fun (values, after) =>
            (.array values, after)
    | '{' :: rest =>
      if room = 0 then .error (.deep .object)
      else match skipSpace rest with
        | '}' :: after => .ok (.object [], after)
        | members => (readMembers (room - 1) fuel members).map fun (pairs, after) =>
            (.object (entriesOf pairs), after)
    | text => readSimple text

/-- The items of a list up to its closing bracket. -/
def readItems (room : Nat) : (fuel : Nat) → List Char → Step (List Document)
  | 0, text => .error (.stuck .noValue text.length)
  | fuel + 1, text =>
    match readValue room fuel text with
    | .error fault => .error fault
    | .ok (value, rest) =>
      match skipSpace rest with
      | ']' :: after => .ok ([value], after)
      | ',' :: more =>
        (readItems room fuel (skipSpace more)).map fun (values, after) => (value :: values, after)
      | other => .error (.stuck .noComma other.length)

/-- The members of an object up to its closing brace. -/
def readMembers (room : Nat) : (fuel : Nat) → List Char → Step (List (CodeText × Document))
  | 0, text => .error (.stuck .noName text.length)
  | fuel + 1, text =>
    match text with
    | '"' :: rest =>
      match readString rest with
      | .error fault => .error fault
      | .ok (name, rest) =>
        match skipSpace rest with
        | ':' :: rest =>
          match readValue room fuel (skipSpace rest) with
          | .error fault => .error fault
          | .ok (value, rest) =>
            match skipSpace rest with
            | '}' :: after => .ok ([(name, value)], after)
            | ',' :: more => (readMembers room fuel (skipSpace more)).map fun (pairs, after) =>
                ((name, value) :: pairs, after)
            | other => .error (.stuck .noComma other.length)
        | other => .error (.stuck .noColon other.length)
    | other => .error (.stuck .noName other.length)

end

/-- The place with `remaining` characters of `text` from it on, as line, column and position. -/
def Fault.locate (text : List Char) : Fault → ReadError
  | .oversized digits => .oversizedInteger digits
  | .deep container => .tooDeep container
  | .stuck problem remaining =>
    let position := text.length - remaining
    let before := text.take position
    let line := before.count '\n' + 1
    let column := (before.reverse.takeWhile (· != '\n')).length + 1
    .malformed problem line column position

/-- The value that a whole text spells. -/
def readAll (room : Nat) (text : List Char) : Except Fault Document :=
  if text.head? = some (Char.ofNat 0xFEFF) then .error (.stuck .byteOrderMark text.length)
  else match readValue room (2 * text.length + 2) (skipSpace text) with
    | .error fault => .error fault
    | .ok (value, rest) =>
      match skipSpace rest with
      | [] => .ok value
      | other => .error (.stuck .extraText other.length)

/-- The value that `text` spells, if there is `room` for that many lists and objects within each
other. -/
def readDocument (room : Nat) (text : String) : Except ReadError Document :=
  (readAll room text.toList).mapError (Fault.locate text.toList)

/-- The value that `text` spells, with a replacement character for every half of a surrogate
pair. -/
def parse (room : Nat) (text : String) : Except ReadError Value :=
  (readDocument room text).map Document.legible

end CodeBrief.Json
