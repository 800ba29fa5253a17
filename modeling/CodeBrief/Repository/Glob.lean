/-
**Glob patterns.**

A pattern matches a text as a whole: a star any characters, a question mark any one character, a set
in brackets one of its characters, and every other character itself. A set may hold ranges and may
be negated by an exclamation mark; a bracket that is never closed stands for itself.

* `Glob.ofText` — the tokens of a pattern.
* `Glob.accepts` — whether a pattern matches a text.
-/

import CodeBrief.Text.Blank

namespace CodeBrief.Glob

/-- A set of characters, or its complement. -/
structure CharSet where
  /-- Whether the characters that are not listed are meant. -/
  negated : Bool
  /-- Single characters. -/
  singles : List Char
  /-- Closed ranges of characters. -/
  ranges : List (Char × Char)
  deriving DecidableEq, Repr

/-- One part of a pattern. -/
inductive Token where
  /-- Any characters. -/
  | star
  /-- Any one character. -/
  | anyChar
  /-- One character. -/
  | char (c : Char)
  /-- One character of a set. -/
  | charIn (members : CharSet)
  deriving DecidableEq, Repr

/-- Whether a set has a character. -/
def CharSet.has (set : CharSet) (c : Char) : Bool :=
  (set.singles.contains c || set.ranges.any fun (low, high) => low ≤ c && c ≤ high) != set.negated

/-- Whether a part of a pattern that takes one character takes `c`. -/
def Token.takes : Token → Char → Bool
  | .star, _ => false
  | .anyChar, _ => true
  | .char expected, c => expected == c
  | .charIn members, c => members.has c

/-! ### Sets -/

/-- What stands between the brackets of a set whose opening bracket is followed by the given text; a
closing bracket in front belongs to it. -/
def setText? (text : List Char) : Option (List Char) :=
  let (mark, rest) := match text with
    | '!' :: rest => (['!'], rest)
    | text => ([], text)
  let (bracket, rest) := match rest with
    | ']' :: rest => ([']'], rest)
    | text => ([], text)
  if rest.contains ']' then some (mark ++ bracket ++ rest.takeWhile (· != ']')) else none

/-- The text of a set divided at the hyphens that make ranges. The first `reserved` characters of a
part are no such hyphens, nor is the last character. -/
def divide : (fuel reserved : Nat) → List Char → List (List Char)
  | 0, _, text => [text]
  | fuel + 1, reserved, text =>
    let lead := text.take reserved
    let tail := text.drop reserved
    match tail.dropWhile (· != '-') with
    | [] => [text]
    | _ :: after =>
      let part := lead ++ tail.takeWhile (· != '-')
      if after.isEmpty then [part ++ ['-']] else part :: divide fuel 2 after

/-- The parts of a set without the ranges whose ends are in the wrong order. -/
def dropEmptyRanges : List (List Char) → List (List Char)
  | [] => []
  | part :: rest =>
    match dropEmptyRanges rest with
    | [] => [part]
    | next :: others =>
      match part.getLast?, next.head? with
      | some low, some high =>
        if high < low then (part.dropLast ++ next.drop 1) :: others else part :: next :: others
      | _, _ => part :: next :: others

/-- The ranges between neighbouring parts of a set. -/
def rangesOf : List (List Char) → List (Char × Char)
  | part :: next :: rest =>
    (match part.getLast?, next.head? with
      | some low, some high => [(low, high)]
      | _, _ => []) ++ rangesOf (next :: rest)
  | _ => []

/-- The part of a pattern for the text of a set. A set without characters matches nothing, and its
complement anything. -/
def setToken (text : List Char) : Token :=
  let reserved := if text.head? = some '!' then 2 else 1
  let parts := dropEmptyRanges (divide text.length reserved text)
  if parts = [['!']] then .anyChar
  else match parts with
    | ('!' :: rest) :: others =>
      let hyphen := if rest.isEmpty && !others.isEmpty then ['-'] else []
      .charIn ⟨true, hyphen ++ rest ++ others.flatten, rangesOf (rest :: others)⟩
    | parts => .charIn ⟨false, parts.flatten, rangesOf parts⟩

/-! ### Patterns -/

/-- The parts of a pattern after its first `skip` characters. -/
def tokensFrom : (skip : Nat) → List Char → List Token
  | _, [] => []
  | skip + 1, _ :: rest => tokensFrom skip rest
  | 0, '*' :: rest => .star :: tokensFrom 0 rest
  | 0, '?' :: rest => .anyChar :: tokensFrom 0 rest
  | 0, '[' :: rest =>
    match setText? rest with
    | some text => setToken text :: tokensFrom (text.length + 1) rest
    | none => .char '[' :: tokensFrom 0 rest
  | 0, c :: rest => .char c :: tokensFrom 0 rest

/-- The parts of a pattern. -/
def ofText (pattern : String) : List Token :=
  tokensFrom 0 pattern.toList

/-- For each place of a row, whether it holds there or at a later place. -/
def orLater : List Bool → List Bool
  | [] => []
  | here :: later =>
    match orLater later with
    | [] => [here]
    | next :: others => (here || next) :: next :: others

/-- For the text and each of its ends, the empty one last, whether the parts match it. -/
def matchTable : List Token → (text : List Char) → List Bool
  | [], text => text.map (fun _ => false) ++ [true]
  | .star :: rest, text => orLater (matchTable rest text)
  | token :: rest, text =>
    List.zipWith (fun c later => token.takes c && later) text ((matchTable rest text).drop 1) ++
      [false]

/-- Whether the parts of a pattern match `text` as a whole. -/
def accepts (tokens : List Token) (text : String) : Bool :=
  (matchTable tokens text.toList).head?.getD false

end CodeBrief.Glob
