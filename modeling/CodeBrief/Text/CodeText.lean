/-
**Texts of code points.**

A text that is read from escapes may hold half of a surrogate pair without the other half. Such a
half is a code point like any other, but no character, and a text that holds one cannot be encoded.

* `CodeText` — a text of code points; `CodeText.ofString` is that of a text of characters.
* `CodeText.encode` — the text of characters, or where the first halves in it stand.
* `CodeText.legible` — the text with a replacement character for every half.
* `CodeText.quoted` — the text between quotes, in which halves are escaped.
-/

import CodeBrief.Text.Digit
import CodeBrief.Text.Quoted

namespace CodeBrief

/-- A code point. -/
inductive CodePoint where
  /-- A character. -/
  | char (c : Char)
  /-- Half of a surrogate pair, by its number among them. -/
  | half (number : Fin 0x800)
  deriving DecidableEq, Repr

namespace CodePoint

/-- The code point with the number `n`, which is below that of the last one. -/
def ofNat (n : Nat) : CodePoint :=
  if isHalf : 0xD800 ≤ n ∧ n < 0xE000 then .half ⟨n - 0xD800, by omega⟩ else .char (Char.ofNat n)

/-- The character that a code point is, if it is one. -/
def char? : CodePoint → Option Char
  | .char c => some c
  | .half _ => none

/-- A code point as a character; half of a pair is replaced. -/
def legible : CodePoint → Char
  | .char c => c
  | .half _ => Char.ofNat 0xFFFD

/-- The escape of half of a pair. -/
def escapeHalf (number : Fin 0x800) : List Char :=
  '\\' :: 'u' :: Text.hexadecimal 4 (0xD800 + number)

/-- The spelling of a code point between quotes of the kind `quote`. -/
def escapeFor (quote : Char) : CodePoint → List Char
  | .char c => Text.escapeFor quote c
  | .half number => escapeHalf number

end CodePoint

/-- A text of code points. -/
structure CodeText where
  /-- The code points in order. -/
  points : List CodePoint
  deriving DecidableEq, Repr, Inhabited

namespace CodeText

/-- A text of characters. -/
def ofString (text : String) : CodeText :=
  ⟨text.toList.map .char⟩

/-- Whether a text has no code point. -/
def isEmpty (text : CodeText) : Bool :=
  text.points.isEmpty

/-- The text with a replacement character for every half of a pair. -/
def legible (text : CodeText) : String :=
  String.ofList (text.points.map CodePoint.legible)

/-- Why a text cannot be encoded: halves of pairs stand in it, one after another from a place on. -/
structure EncodeError where
  /-- The place of the first one. -/
  position : Nat
  /-- The first one. -/
  half : Fin 0x800
  /-- How many follow it. -/
  more : Nat
  deriving DecidableEq, Repr

/-- The wording of an error. -/
def EncodeError.message (error : EncodeError) : String :=
  let place := Text.spell error.position
  "'utf-8' codec can't encode character" ++
    String.ofList (match error.more with
      | 0 => " '".toList ++ CodePoint.escapeHalf error.half ++ "' in position ".toList ++ place
      | more => "s in position ".toList ++ place ++ '-' :: Text.spell (error.position + more)) ++
    ": surrogates not allowed"

/-- The characters of a text, the first of which stands at `position`. -/
def encodeFrom (position : Nat) : List CodePoint → Except EncodeError (List Char)
  | [] => .ok []
  | .char c :: rest => (encodeFrom (position + 1) rest).map (c :: ·)
  | .half half :: rest =>
    .error ⟨position, half, (rest.takeWhile fun point => point.char?.isNone).length⟩

/-- The text of characters that a text is, if it can be encoded. -/
def encode (text : CodeText) : Except EncodeError String :=
  (encodeFrom 0 text.points).map String.ofList

/-- The quoted spelling of a text. -/
def quoted (text : CodeText) : List Char :=
  let quote := Text.quoteFor (text.points.filterMap CodePoint.char?)
  quote :: text.points.flatMap (CodePoint.escapeFor quote) ++ [quote]

end CodeText

end CodeBrief
