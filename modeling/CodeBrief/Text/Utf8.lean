/-
**UTF-8.**

Reading bytes as text. A sequence of bytes is read from the left; where no well-formed character
begins, the longest part that could have begun one (at least one byte) is in error.

* `nextChar` — the character at the head of a byte sequence, or the length and the kind of the
  error.
* `decode?` — the whole text, or the first error with its place.
* `decodeLossy` — the text with one replacement character for each part in error.
* `Error.message` — the wording of an error.
-/

import CodeBrief.Text.Digit
import CodeBrief.Text.Quoted

namespace CodeBrief.Text.Utf8

/-- Why bytes are not a character. -/
inductive Problem where
  /-- The first byte begins no character. -/
  | badStart
  /-- A byte after the first does not continue the character. -/
  | badContinuation
  /-- The bytes end within a character. -/
  | unfinished
  deriving DecidableEq, Repr

/-- What stands at the head of a byte sequence. -/
inductive Head where
  /-- A character and the number of its bytes. -/
  | char (c : Char) (size : Nat)
  /-- A part in error and the number of its bytes. -/
  | error (problem : Problem) (size : Nat)
  deriving DecidableEq, Repr

/-- The bytes that may follow the first byte `lead` of a character of several bytes, as the closed
range of the second one and the number of those after it. -/
def continuation? (lead : Nat) : Option (Nat × Nat × Nat) :=
  if 0xC2 ≤ lead ∧ lead ≤ 0xDF then some (0x80, 0xBF, 0)
  else if lead = 0xE0 then some (0xA0, 0xBF, 1)
  else if lead = 0xED then some (0x80, 0x9F, 1)
  else if 0xE1 ≤ lead ∧ lead ≤ 0xEF then some (0x80, 0xBF, 1)
  else if lead = 0xF0 then some (0x90, 0xBF, 2)
  else if 0xF1 ≤ lead ∧ lead ≤ 0xF3 then some (0x80, 0xBF, 2)
  else if lead = 0xF4 then some (0x80, 0x8F, 2)
  else none

/-- Reads `more` further bytes of a character whose first `size` bytes have the value `value`. -/
def finish : (more value size : Nat) → List UInt8 → Head
  | 0, value, size, _ => .char (Char.ofNat value) size
  | _ + 1, _, size, [] => .error .unfinished size
  | more + 1, value, size, byte :: rest =>
    if 0x80 ≤ byte.toNat ∧ byte.toNat ≤ 0xBF then
      finish more (value * 64 + (byte.toNat - 0x80)) (size + 1) rest
    else .error .badContinuation size

/-- What stands at the head of `lead :: rest`. -/
def nextChar (lead : UInt8) (rest : List UInt8) : Head :=
  let first := lead.toNat
  if first < 0x80 then .char (Char.ofNat first) 1
  else match continuation? first with
    | none => .error .badStart 1
    | some (low, high, more) =>
      let value :=
        if more = 0 then first - 0xC0 else if more = 1 then first - 0xE0 else first - 0xF0
      match rest with
      | [] => .error .unfinished 1
      | second :: after =>
        if low ≤ second.toNat ∧ second.toNat ≤ high then
          finish more (value * 64 + (second.toNat - 0x80)) 2 after
        else .error .badContinuation 1

/-- A part of a byte sequence that is not text: its place, its bytes and what is wrong. -/
structure Error where
  /-- The number of bytes before the part. -/
  position : Nat
  /-- The bytes of the part. -/
  bytes : List UInt8
  /-- What is wrong with them. -/
  problem : Problem
  deriving DecidableEq, Repr

/-- The wording of a problem. -/
def Problem.reason : Problem → String
  | .badStart => "invalid start byte"
  | .badContinuation => "invalid continuation byte"
  | .unfinished => "unexpected end of data"

/-- What an error is about: one byte with its value, or several bytes. -/
def Error.subject (error : Error) : List Char :=
  match error.bytes with
  | [byte] => "byte 0x".toList ++ hexadecimal 2 byte.toNat ++ " in position ".toList ++
      spell error.position
  | bytes => "bytes in position ".toList ++ spell error.position ++
      '-' :: spell (error.position + bytes.length - 1)

/-- The wording of an error. -/
def Error.message (error : Error) : String :=
  "'utf-8' codec can't decode " ++ String.ofList error.subject ++ ": " ++ error.problem.reason

/-- Reads bytes that begin at `position`, leaving out the first `skip`, and stops at an error. -/
def decodeFrom : (position skip : Nat) → List UInt8 → Except Error (List Char)
  | _, _, [] => .ok []
  | position, skip + 1, _ :: rest => decodeFrom (position + 1) skip rest
  | position, 0, lead :: rest =>
    match nextChar lead rest with
    | .char c size => (decodeFrom (position + 1) (size - 1) rest).map (c :: ·)
    | .error problem size => .error ⟨position, (lead :: rest).take size, problem⟩

/-- The text that `bytes` spell, or the first error. -/
def decode? (bytes : List UInt8) : Except Error (List Char) :=
  decodeFrom 0 0 bytes

/-- Reads bytes, leaving out the first `skip`, with a replacement character for each error. -/
def decodeLossyFrom : (skip : Nat) → List UInt8 → List Char
  | _, [] => []
  | skip + 1, _ :: rest => decodeLossyFrom skip rest
  | 0, lead :: rest =>
    match nextChar lead rest with
    | .char c size => c :: decodeLossyFrom (size - 1) rest
    | .error _ size => Char.ofNat 0xFFFD :: decodeLossyFrom (size - 1) rest

/-- The text that `bytes` spell, with a replacement character for each part in error. -/
def decodeLossy (bytes : List UInt8) : List Char :=
  decodeLossyFrom 0 bytes

end CodeBrief.Text.Utf8
