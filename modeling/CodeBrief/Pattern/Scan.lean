/-
**Scanning a text for a pattern.**

The matches of a pattern in a text, from the left and without overlap: the first place where the
pattern matches, then the first one after the end of that match, and so on. A pattern sees the text
before its place, read backwards, so that it can ask what stands there.

* `allMatches` — every match with the text before and after it.
* `atBoundary` — whether a word can begin after a text.
* `replaceAll` — a text with every match replaced.
* `occurs` — whether there is a match at all.
-/

import CodeBrief.Pattern.Reader

namespace CodeBrief.Pattern

/-- A reader that also sees the text before its place, read backwards. -/
abbrev Finder (α : Type) := List Char → Reader α

/-- One match of a pattern. -/
structure Match (α : Type) where
  /-- The text before the match, read backwards. -/
  before : List Char
  /-- What the pattern took. -/
  value : α
  /-- The text after the match. -/
  after : List Char

/-- The matches in a text that follows `before`, after its first `skip` characters. -/
def matchesFrom {α : Type} (find : Finder α) :
    (before : List Char) → (skip : Nat) → List Char → List (Match α)
  | _, _, [] => []
  | before, skip + 1, c :: rest => matchesFrom find (c :: before) skip rest
  | before, 0, c :: rest =>
    match find before (c :: rest) with
    | some (value, after) =>
      ⟨before, value, after⟩ :: matchesFrom find (c :: before) (rest.length - after.length) rest
    | none => matchesFrom find (c :: before) 0 rest

/-- The matches of a pattern in `text`, from the left and without overlap. -/
def allMatches {α : Type} (find : Finder α) (text : List Char) : List (Match α) :=
  matchesFrom find [] 0 text

/-- What a pattern took at each of its matches in `text`. -/
def found {α : Type} (reader : Reader α) (text : List Char) : List α :=
  (allMatches (fun _ => reader) text).map Match.value

/-- Whether a pattern matches somewhere in the text that follows `before`. -/
def occursFrom {α : Type} (find : Finder α) : (before : List Char) → List Char → Bool
  | _, [] => false
  | before, c :: rest =>
    (find before (c :: rest)).isSome || occursFrom find (c :: before) rest

/-- Whether a pattern matches somewhere in `text`. -/
def occurs {α : Type} (find : Finder α) (text : List Char) : Bool :=
  occursFrom find [] text

/-- The text after its first `skip` characters, with every match replaced. -/
def replaceFrom (reader : Reader Unit) (replacement : List Char) :
    (skip : Nat) → List Char → List Char
  | _, [] => []
  | skip + 1, _ :: rest => replaceFrom reader replacement skip rest
  | 0, c :: rest =>
    match reader (c :: rest) with
    | some (_, after) =>
      replacement ++ replaceFrom reader replacement (rest.length - after.length) rest
    | none => c :: replaceFrom reader replacement 0 rest

/-- `text` with every match of a pattern replaced. -/
def replaceAll (reader : Reader Unit) (replacement text : List Char) : List Char :=
  replaceFrom reader replacement 0 text

/-- Whether a word can begin after the text `before`, read backwards: its last character, if there
is one, is no word character. -/
def atBoundary (before : List Char) : Bool :=
  match before with
  | [] => true
  | c :: _ => !Text.isWord c

/-- A reader that matches only where a word can begin. -/
def atWordStart {α : Type} (reader : Reader α) : Finder α := fun before =>
  if atBoundary before then reader else fun _ => none

/-- What a pattern took at each of its matches in `text` that begin where a word can. For a pattern
that takes a whole word first and then needs something that is no word character, these are all
matches: what fails where a word begins fails within the word too. -/
def foundAtWords {α : Type} (reader : Reader α) (text : List Char) : List α :=
  (allMatches (atWordStart reader) text).map Match.value

end CodeBrief.Pattern
