/-
**Tokens of expressions.**

The arguments that a text with markup hands on are written as an expression of names, numbers, texts
and symbols. Within brackets a new line counts as a blank.

* `Token` — the smallest parts of an expression.
* `Fault` — what is wrong with an expression; `Fault.message` is the wording.
* `tokens` — the tokens of a text, and the bracket that is open at its end.
-/

import CodeBrief.Text.Digit
import CodeBrief.Text.Lower
import CodeBrief.Text.Printable
import CodeBrief.Text.Quoted
import CodeBrief.Text.WordChar

namespace CodeBrief.Expression

/-! ### Brackets -/

/-- The kinds of brackets. -/
inductive Bracket where
  /-- Round brackets. -/
  | round
  /-- Square brackets. -/
  | square
  /-- Braces. -/
  | brace
  deriving DecidableEq, Repr

/-- The character that opens a bracket. -/
def Bracket.opening : Bracket → Char
  | .round => '('
  | .square => '['
  | .brace => '{'

/-- The character that closes a bracket. -/
def Bracket.closing : Bracket → Char
  | .round => ')'
  | .square => ']'
  | .brace => '}'

/-- The kind of bracket that a character opens. -/
def Bracket.openedBy? (c : Char) : Option Bracket :=
  [Bracket.round, .square, .brace].find? fun bracket => bracket.opening == c

/-- The kind of bracket that a character closes. -/
def Bracket.closedBy? (c : Char) : Option Bracket :=
  [Bracket.round, .square, .brace].find? fun bracket => bracket.closing == c

/-! ### Faults -/

/-- What is wrong with an expression. -/
inductive Fault where
  /-- A text does not end; it has single or triple quotes, and the line is the last one looked
  at. -/
  | unterminated (tripled : Bool) (line : Nat)
  /-- A number is not spelled as its kind requires. -/
  | badNumber (kind : String)
  /-- A number has a digit that its kind does not have. -/
  | badDigit (digit : Char) (kind : String)
  /-- A number begins with a zero. -/
  | leadingZero
  /-- A character has no place in an expression. -/
  | badCharacter (c : Char)
  /-- Something follows a backslash on its line. -/
  | afterBackslash
  /-- A closing bracket closes nothing. -/
  | unmatched (closing : Bracket)
  /-- A closing bracket stands where another kind is open, on some line if it is another one. -/
  | mismatched (closing opening : Bracket) (line : Option Nat)
  /-- Too many brackets are open. -/
  | tooManyBrackets
  /-- A bracket is not closed. -/
  | neverClosed (opening : Bracket)
  /-- Two expressions stand side by side between brackets. -/
  | missingComma
  /-- A statement of old needs brackets around its operands. -/
  | bareCall (name : String)
  /-- A name is set to a value. -/
  | assignment
  /-- Something that cannot be set is set to a value. -/
  | assignmentTo (what : String)
  /-- Something that cannot be set is given a value within an expression. -/
  | binding (what : String)
  /-- A starred expression stands alone between brackets. -/
  | loneStar (twice : Bool)
  /-- Nothing follows a star. -/
  | emptyStar
  /-- A condition has no alternative. -/
  | missingElse
  /-- A key has no colon after it. -/
  | missingColon
  /-- A key has no value. -/
  | missingValue
  /-- A value has a star before it. -/
  | starredValue
  /-- A text in bytes stands beside one in characters. -/
  | mixedTexts
  /-- A token has no place where it stands. -/
  | misplaced
  deriving DecidableEq, Repr

/-- The code point of a character in at least four hexadecimal digits. -/
def codePoint (c : Char) : String :=
  let width := if c.toNat < 0x10000 then 4 else if c.toNat < 0x100000 then 5 else 6
  String.ofList ((Text.hexadecimal width c.toNat).map Char.toUpper)

/-- The wording of a fault. -/
def Fault.message : Fault → String
  | .unterminated tripled line =>
    (if tripled then "unterminated triple-quoted string literal" else "unterminated string literal")
      ++ s!" (detected at line {line})"
  | .badNumber kind => s!"invalid {kind} literal"
  | .badDigit digit kind => s!"invalid digit '{digit}' in {kind} literal"
  | .leadingZero => "leading zeros in decimal integer literals are not permitted; " ++
      "use an 0o prefix for octal integers"
  | .badCharacter c =>
    if Text.isPrintable c then s!"invalid character '{c}' (U+{codePoint c})"
    else s!"invalid non-printable character U+{codePoint c}"
  | .afterBackslash => "unexpected character after line continuation character"
  | .unmatched bracket => s!"unmatched '{bracket.closing}'"
  | .mismatched closed opened line =>
    s!"closing parenthesis '{closed.closing}' does not match " ++
      s!"opening parenthesis '{opened.opening}'" ++
        (line.map fun number => s!" on line {number}").getD ""
  | .tooManyBrackets => "too many nested parentheses"
  | .neverClosed bracket => s!"'{bracket.opening}' was never closed"
  | .missingComma => "invalid syntax. Perhaps you forgot a comma?"
  | .bareCall name =>
    s!"Missing parentheses in call to '{name}'. Did you mean {name}(...)?"
  | .assignment => "invalid syntax. Maybe you meant '==' or ':=' instead of '='?"
  | .assignmentTo what => s!"cannot assign to {what} here. Maybe you meant '==' instead of '='?"
  | .binding what => s!"cannot use assignment expressions with {what}"
  | .loneStar twice =>
    "cannot use " ++ (if twice then "double " else "") ++ "starred expression here"
  | .emptyStar => "Invalid star expression"
  | .missingElse => "expected 'else' after 'if' expression"
  | .missingColon => "':' expected after dictionary key"
  | .missingValue => "expression expected after dictionary key and ':'"
  | .starredValue => "cannot use a starred expression in a dictionary value"
  | .mixedTexts => "cannot mix bytes and nonbytes literals"
  | .misplaced => "invalid syntax"

/-! ### Tokens -/

/-- The kinds of texts. -/
inductive TextKind where
  /-- Characters. -/
  | characters
  /-- Characters with places to fill in. -/
  | filled
  /-- Bytes. -/
  | bytes
  deriving DecidableEq, Repr

/-- The smallest parts of an expression. -/
inductive Token where
  /-- A name. -/
  | name (spelling : String)
  /-- A word with a meaning of its own. -/
  | keyword (spelling : String)
  /-- A number, which may be imaginary. -/
  | number (imaginary : Bool)
  /-- A text. -/
  | text (kind : TextKind)
  /-- A symbol. -/
  | symbol (spelling : String)
  /-- An opening bracket. -/
  | opening (bracket : Bracket)
  /-- A closing bracket. -/
  | closing (bracket : Bracket)
  /-- The end of a line. -/
  | newLine
  /-- A backslash with something else than a new line after it, beyond which nothing is read. -/
  | backslash
  deriving DecidableEq, Repr

/-- The words with a meaning of their own. -/
def keywords : List String :=
  ["False", "None", "True", "and", "as", "assert", "async", "await", "break", "class", "continue",
    "def", "del", "elif", "else", "except", "finally", "for", "from", "global", "if", "import",
    "in", "is", "lambda", "nonlocal", "not", "or", "pass", "raise", "return", "try", "while",
    "with", "yield"]

/-- Whether `c` continues a name if it is not refused. -/
def continuesName (c : Char) : Bool :=
  c.isAlphanum || c == '_' || 128 ≤ c.toNat

/-- The first character of a spelling that no name has there; no name begins with a digit. -/
def badCharacter? (spelling : List Char) : Option Char :=
  (spelling.head?.filter fun c => (Text.digitValue? c).isSome) <|>
    spelling.find? fun c => !Text.isWord c

/-- The name with some spelling. -/
def nameToken (spelling : List Char) : Except Fault Token :=
  match badCharacter? spelling with
  | some c => .error (.badCharacter c)
  | none =>
    let word := String.ofList spelling
    .ok (if keywords.contains word then .keyword word else .name word)

/-! ### Texts -/

/-- What follows the end of a text in single quotes of which all but the first has been read. -/
def afterText? (quote : Char) : List Char → Option (List Char)
  | [] => none
  | '\\' :: _ :: rest => afterText? quote rest
  | c :: rest => if c = quote then some rest else if c = '\n' then none else afterText? quote rest

/-- What follows the end of a text in triple quotes of which the first three have been read. -/
def afterTripled? (quote : Char) : List Char → Option (List Char)
  | [] => none
  | '\\' :: _ :: rest => afterTripled? quote rest
  | c :: rest =>
    if c = quote && [quote, quote].isPrefixOf rest then some (rest.drop 2)
    else afterTripled? quote rest

/-- The number of escaped new lines at the head of a text in single quotes that does not end. -/
def escapedLines : List Char → Nat
  | '\\' :: c :: rest => (if c = '\n' then 1 else 0) + escapedLines rest
  | c :: rest => if c = '\n' then 0 else escapedLines rest
  | [] => 0

/-- What follows a text whose first quote has been read on some line. -/
def afterQuote (line : Nat) (quote : Char) (rest : List Char) : Except Fault (List Char) :=
  if [quote, quote].isPrefixOf rest then
    match afterTripled? quote (rest.drop 2) with
    | some after => .ok after
    | none => .error (.unterminated true (line + rest.count '\n'))
  else
    match afterText? quote rest with
    | some after => .ok after
    | none => .error (.unterminated false (line + escapedLines rest))

/-- The letters that may stand before the first quote of a text, and its kind. -/
def textMarks : List (String × TextKind) :=
  [("b", .bytes), ("br", .bytes), ("rb", .bytes), ("f", .filled), ("fr", .filled),
    ("rf", .filled), ("u", .characters), ("r", .characters)]

/-! ### Numbers -/

/-- What follows some digits, between which single underscores may stand; none if an underscore
stands elsewhere. -/
def afterDigits? (isDigit : Char → Bool) : List Char → Option (List Char)
  | [] => some []
  | ['_'] => none
  | '_' :: c :: rest => if isDigit c then afterDigits? isDigit rest else none
  | c :: rest => if isDigit c then afterDigits? isDigit rest else some (c :: rest)

/-- The words that may follow a number at once. -/
def followers : List String := ["and", "else", "for", "if", "in", "is", "or", "not"]

/-- A number with what follows it, which must not look like a part of it. -/
def endNumber (kind : String) (imaginary : Bool) (rest : List Char) :
    Except Fault (Token × List Char) :=
  if rest.head?.any (fun c => c.isAlphanum || c == '_') &&
      !followers.any fun word => word.toList.isPrefixOf rest then
    .error (.badNumber kind)
  else .ok (.number imaginary, rest)

/-- A number of some kind with a base of its own, after the letter that marks the base. -/
def markedNumber (kind : String) (isDigit : Char → Bool) (rest : List Char) :
    Except Fault (Token × List Char) :=
  let digits := if rest.head? = some '_' then rest.drop 1 else rest
  if !digits.head?.any isDigit then
    match digits.head?.filter Char.isDigit with
    | some digit => .error (.badDigit digit kind)
    | none => .error (.badNumber kind)
  else match afterDigits? isDigit digits with
    | none => .error (.badNumber kind)
    | some rest =>
      match rest.head?.filter Char.isDigit with
      | some digit => .error (.badDigit digit kind)
      | none => endNumber kind false rest

/-- What follows an exponent, if one stands at the head of a text. -/
def afterExponent? (text : List Char) : Except Fault (Option (List Char)) :=
  match text with
  | mark :: rest =>
    if mark ≠ 'e' ∧ mark ≠ 'E' then .ok none
    else
      let signed := rest.head? = some '+' || rest.head? = some '-'
      let digits := if signed then rest.drop 1 else rest
      if digits.head?.any Char.isDigit then
        match afterDigits? Char.isDigit digits with
        | some after => .ok (some after)
        | none => .error (.badNumber "decimal")
      else if signed then .error (.badNumber "decimal")
      else .ok none
  | [] => .ok none

/-- A decimal number, of which the digits before the point, if there are any, are `whole`, and what
follows them is `rest`. -/
def decimalNumber (whole rest : List Char) : Except Fault (Token × List Char) := do
  let fraction := match rest with
    | '.' :: c :: more =>
      if c.isDigit then afterDigits? Char.isDigit (c :: more) else some (c :: more)
    | ['.'] => some []
    | _ => some rest
  let some afterFraction := fraction | .error (.badNumber "decimal")
  let exponent ← afterExponent? afterFraction
  let after := exponent.getD afterFraction
  match after with
  | 'j' :: more => endNumber "imaginary" true more
  | 'J' :: more => endNumber "imaginary" true more
  | _ =>
    if rest.head? ≠ some '.' ∧ exponent.isNone ∧ whole.head? = some '0' ∧
        whole.any (fun c => c ≠ '0' ∧ c ≠ '_') ∧ rest.head? ≠ some 'e' ∧ rest.head? ≠ some 'E' then
      .error .leadingZero
    else endNumber "decimal" false after

/-- Whether `c` is a hexadecimal digit. -/
def isHexadecimalDigit (c : Char) : Bool :=
  c.isDigit || ('a' ≤ c.toLower && c.toLower ≤ 'f')

/-- The number at the head of a text that begins with a digit or a point. -/
def numberToken (text : List Char) : Except Fault (Token × List Char) :=
  let unmarked : Except Fault (Token × List Char) :=
    match afterDigits? Char.isDigit text with
    | some rest => decimalNumber (text.take (text.length - rest.length)) rest
    | none => .error (.badNumber "decimal")
  match text with
  | '0' :: mark :: rest =>
    if mark.toLower = 'x' then markedNumber "hexadecimal" isHexadecimalDigit rest
    else if mark.toLower = 'o' then markedNumber "octal" (fun c => '0' ≤ c && c ≤ '7') rest
    else if mark.toLower = 'b' then markedNumber "binary" (fun c => c == '0' || c == '1') rest
    else unmarked
  | _ => unmarked

/-! ### The tokens of a text -/

/-- The symbols of more than one character, the longest first. -/
def longSymbols : List String :=
  ["**=", "...", "//=", "<<=", ">>=", "!=", "%=", "&=", "**", "*=", "+=", "-=", "->", "//", "/=",
    ":=", "<<", "<=", "<>", "==", ">=", ">>", "@=", "^=", "|="]

/-- The symbol at the head of a text. -/
def symbolToken (c : Char) (rest : List Char) : Except Fault (Token × List Char) :=
  match longSymbols.find? fun symbol => symbol.toList.isPrefixOf (c :: rest) with
  | some symbol => .ok (.symbol symbol, rest.drop (symbol.length - 1))
  | none =>
    if Text.isPrintable c then .ok (.symbol (String.singleton c), rest)
    else .error (.badCharacter c)

/-- The token at the head of a text that begins with `c`, neither a blank nor a bracket, on some
line. -/
def token (line : Nat) (c : Char) (rest : List Char) : Except Fault (Token × List Char) :=
  if c = '"' ∨ c = '\'' then do return (.text .characters, ← afterQuote line c rest)
  else if c.isDigit ∨ (c = '.' ∧ rest.head?.any Char.isDigit) then numberToken (c :: rest)
  else if continuesName c then
    let spelling := c :: rest.takeWhile continuesName
    let after := rest.dropWhile continuesName
    match textMarks.lookup (String.ofList (spelling.map Char.toLower)), after with
    | some kind, '"' :: inside => do return (.text kind, ← afterQuote line '"' inside)
    | some kind, '\'' :: inside => do return (.text kind, ← afterQuote line '\'' inside)
    | _, _ => do return (← nameToken spelling, after)
  else symbolToken c rest

/-- The greatest number of brackets within each other. -/
def bracketLimit : Nat := 200

/-- The brackets that are open, with their lines, after a closing one on some line. -/
def closeBracket (line : Nat) (closed : Bracket) :
    (opened : List (Bracket × Nat)) → Except Fault (List (Bracket × Nat))
  | [] => .error (.unmatched closed)
  | (bracket, start) :: outer =>
    if bracket = closed then .ok outer
    else .error (.mismatched closed bracket (if start = line then none else some start))

/-- What stands between the tokens of a text: a blank character, a comment, or an escaped new line.
The text after it and the number of lines it ends. -/
def afterBlank? (c : Char) (rest : List Char) : Option (List Char × Nat) :=
  if c = ' ' ∨ c = '\t' ∨ c = '\x0c' then some (rest, 0)
  else if c = '#' then some (rest.dropWhile (· ≠ '\n'), 0)
  else match c, rest with
    | '\\', '\n' :: more => if more.isEmpty then none else some (more, 1)
    | _, _ => none

/-- The tokens of a text that begins on some line with some brackets open, and the innermost bracket
that is open at its end. -/
def tokensFrom (line : Nat) (opened : List (Bracket × Nat)) :
    (fuel : Nat) → List Char → Except Fault (List Token × Option Bracket)
  | 0, _ => .ok ([], none)
  | _ + 1, [] => .ok ([], opened.head?.map Prod.fst)
  | fuel + 1, c :: rest => do
    if let some (after, lines) := afterBlank? c rest then
      tokensFrom (line + lines) opened fuel after
    else if c = '\n' then
      let (others, last) ← tokensFrom (line + 1) opened fuel rest
      return (if opened.isEmpty then .newLine :: others else others, last)
    else if c = '\\' then return ([.backslash], opened.head?.map Prod.fst)
    else if let some bracket := Bracket.openedBy? c then
      if bracketLimit ≤ opened.length then throw .tooManyBrackets
      let (others, last) ← tokensFrom line ((bracket, line) :: opened) fuel rest
      return (.opening bracket :: others, last)
    else if let some bracket := Bracket.closedBy? c then
      let (others, last) ← tokensFrom line (← closeBracket line bracket opened) fuel rest
      return (.closing bracket :: others, last)
    else
      let (first, after) ← token line c rest
      let (others, last) ← tokensFrom (line + (rest.take (rest.length - after.length)).count '\n')
        opened fuel after
      return (first :: others, last)

/-- The tokens of a text, and the innermost bracket that is open at its end. -/
def tokens (text : List Char) : Except Fault (List Token × Option Bracket) :=
  tokensFrom 1 [] (text.length + 1) text

end CodeBrief.Expression
