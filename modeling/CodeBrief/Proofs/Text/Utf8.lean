/-
**Texts survive their bytes.**

The bytes that spell a text are read as that text. A character is spelt by one to four bytes; the
first one tells how many follow, and which range the second one lies in.

* `nextChar_spelled` — a character stands at the head of the bytes that spell it.
* `decode_toUTF8` — the bytes of a text are read as the text.
* `length_toUTF8` — their number.
* `decode?_eq_ok_iff` — and bytes are read as no other text than the one that they spell.
-/

import CodeBrief.Proofs.Outcome
import CodeBrief.Text.Utf8
import Mathlib.Data.List.Basic

namespace CodeBrief.Text.Utf8

/-! ### Single characters -/

theorem toNat_ofNat {n : Nat} (small : n < 256) : (UInt8.ofNat n).toNat = n := by
  rw [UInt8.toNat_ofNat']
  omega

/-- What the first byte of a character of several bytes adds to its value, if `more` bytes follow
the second one. -/
def leadValue (lead more : Nat) : Nat :=
  if more = 0 then lead - 0xC0 else if more = 1 then lead - 0xE0 else lead - 0xF0

/-- A character of several bytes begins with a first byte and a second one in its range. -/
theorem nextChar_cons {lead second low high more : Nat} (several : 0x80 ≤ lead) (byte : lead < 256)
    (found : continuation? lead = some (low, high, more)) (least : low ≤ second)
    (greatest : second ≤ high) (small : second < 256) (after : List UInt8) :
    nextChar (UInt8.ofNat lead) (UInt8.ofNat second :: after) =
      finish more (leadValue lead more * 64 + (second - 0x80)) 2 after := by
  simp only [nextChar, toNat_ofNat byte, if_neg (Nat.not_lt.mpr several), found, toNat_ofNat small,
    if_pos (And.intro least greatest), leadValue]

/-- A further byte of a character adds its last six bits. -/
theorem finish_cons (more value size bits : Nat) (rest : List UInt8) :
    finish (more + 1) value size (UInt8.ofNat (bits % 64 + 128) :: rest) =
      finish more (value * 64 + bits % 64) (size + 1) rest := by
  have byte : bits % 64 + 128 < 256 := by omega
  have range : 0x80 ≤ bits % 64 + 128 ∧ bits % 64 + 128 ≤ 0xBF := by omega
  rw [finish, toNat_ofNat byte, if_pos range, Nat.add_sub_cancel]

/-- The range in which the second byte lies, for the first byte of a character of two bytes. -/
theorem continuation?_two {v : Nat} (low : 0x80 ≤ v) (high : v ≤ 0x7FF) :
    continuation? (v / 64 % 32 + 192) = some (0x80, 0xBF, 0) :=
  if_pos (by omega)

/-- The second byte of a character of three bytes lies in the range that the first one tells; the
code points of surrogates would not. -/
theorem continuation?_three {v : Nat} (low : 0x800 ≤ v) (high : v ≤ 0xFFFF)
    (scalar : v < 0xD800 ∨ 0xDFFF < v) :
    ∃ least greatest, continuation? (v / 4096 % 16 + 224) = some (least, greatest, 1) ∧
      least ≤ v / 64 % 64 + 128 ∧ v / 64 % 64 + 128 ≤ greatest := by
  fun_cases continuation? (v / 4096 % 16 + 224) with
  | case2 => exact ⟨_, _, rfl, by omega⟩
  | case3 => exact ⟨_, _, rfl, by omega⟩
  | case4 => exact ⟨_, _, rfl, by omega⟩
  | _ => omega

/-- The second byte of a character of four bytes lies in the range that the first one tells. -/
theorem continuation?_four {v : Nat} (low : 0x10000 ≤ v) (high : v ≤ 0x10FFFF) :
    ∃ least greatest, continuation? (v / 262144 % 8 + 240) = some (least, greatest, 2) ∧
      least ≤ v / 4096 % 64 + 128 ∧ v / 4096 % 64 + 128 ≤ greatest := by
  fun_cases continuation? (v / 262144 % 8 + 240) with
  | case5 => exact ⟨_, _, rfl, by omega⟩
  | case6 => exact ⟨_, _, rfl, by omega⟩
  | case7 => exact ⟨_, _, rfl, by omega⟩
  | _ => omega

/-- **A character stands at the head of the bytes that spell it.** -/
theorem nextChar_spelled (c : Char) (rest : List UInt8) :
    ∃ lead tail, String.utf8EncodeChar c = lead :: tail ∧
      nextChar lead (tail ++ rest) = .char c (tail.length + 1) := by
  have code : Char.ofNat c.val.toNat = c := Char.ofNat_toNat c
  have scalar : c.val.toNat < 0xD800 ∨ 0xDFFF < c.val.toNat ∧ c.val.toNat < 0x110000 := c.valid
  unfold String.utf8EncodeChar
  generalize c.val.toNat = v at code scalar
  rw [← code]
  dsimp only
  split
  · -- One byte.
    rename_i ascii
    refine ⟨_, _, rfl, ?_⟩
    have small : v < 0x80 := by omega
    simp only [nextChar, toNat_ofNat (show v < 256 by omega), small, if_true, List.length_nil]
  split
  · -- Two bytes.
    rename_i notAscii high
    refine ⟨_, _, rfl, ?_⟩
    have lead : leadValue (v / 64 % 32 + 192) 0 = v / 64 % 32 := by simp [leadValue]
    have value : v / 64 % 32 * 64 + (v % 64 + 128 - 0x80) = v := by omega
    rw [List.cons_append, List.nil_append, nextChar_cons (by omega) (by omega)
      (continuation?_two (by omega) high) (by omega) (by omega) (by omega), lead, value]
    rfl
  split
  · -- Three bytes.
    rename_i notAscii notTwo high
    refine ⟨_, _, rfl, ?_⟩
    obtain ⟨low, greatest, found, second⟩ :=
      continuation?_three (v := v) (by omega) high (by omega)
    have lead : leadValue (v / 4096 % 16 + 224) 1 = v / 4096 % 16 := by simp [leadValue]
    have value : (v / 4096 % 16 * 64 + (v / 64 % 64 + 128 - 0x80)) * 64 + v % 64 = v := by omega
    simp only [List.cons_append, List.nil_append]
    rw [nextChar_cons (by omega) (by omega) found second.1 second.2 (by omega), lead, finish_cons,
      value]
    rfl
  · -- Four bytes.
    rename_i notAscii notTwo notThree
    refine ⟨_, _, rfl, ?_⟩
    obtain ⟨low, greatest, found, second⟩ := continuation?_four (v := v) (by omega) (by omega)
    have lead : leadValue (v / 262144 % 8 + 240) 2 = v / 262144 % 8 := by simp [leadValue]
    have value : ((v / 262144 % 8 * 64 + (v / 4096 % 64 + 128 - 0x80)) * 64 + v / 64 % 64) * 64 +
        v % 64 = v := by omega
    simp only [List.cons_append, List.nil_append]
    rw [nextChar_cons (by omega) (by omega) found second.1 second.2 (by omega), lead, finish_cons,
      finish_cons, value]
    rfl

/-! ### Texts -/

/-- Bytes that are left out are not read. -/
theorem decodeFrom_skip (skipped rest : List UInt8) (position : Nat) :
    decodeFrom position skipped.length (skipped ++ rest) =
      decodeFrom (position + skipped.length) 0 rest := by
  induction skipped generalizing position with
  | nil => rfl
  | cons byte skipped ih =>
    rw [List.length_cons, List.cons_append, decodeFrom, ih]
    congr 1
    omega

theorem decodeFrom_spelled (text : List Char) (position : Nat) :
    decodeFrom position 0 (text.flatMap String.utf8EncodeChar) = .ok text := by
  induction text generalizing position with
  | nil => rfl
  | cons c text ih =>
    obtain ⟨lead, tail, bytes, head⟩ :=
      nextChar_spelled c (text.flatMap String.utf8EncodeChar)
    rw [List.flatMap_cons, bytes, List.cons_append, decodeFrom, head]
    dsimp only
    rw [Nat.add_sub_cancel, decodeFrom_skip, ih]
    rfl

theorem toList_loop (bytes : ByteArray) (place : Nat) (read : List UInt8) :
    ByteArray.toList.loop bytes place read = read.reverse ++ bytes.data.toList.drop place := by
  fun_induction ByteArray.toList.loop bytes place read with
  | case1 place read within ih =>
    have byte : bytes.get! place = bytes.data.toList.get ⟨place, within⟩ :=
      getElem!_pos bytes.data place within
    rw [ih, List.reverse_cons, List.append_assoc, List.drop_eq_getElem_cons within, byte]
    rfl
  | case2 place read beyond =>
    rw [List.drop_eq_nil_of_le (Nat.not_lt.mp beyond), List.append_nil]

/-- The bytes of a text are those that spell its characters. -/
theorem toUTF8_toList (text : String) :
    text.toUTF8.toList = text.toList.flatMap String.utf8EncodeChar := by
  have bytes : text.toUTF8 = text.toList.utf8Encode := String.utf8Encode_toList.symm
  rw [bytes, ByteArray.toList, toList_loop]
  simp [List.utf8Encode]

/-- **The bytes of a text are read as the text.** -/
theorem decode_toUTF8 (text : String) : decode? text.toUTF8.toList = .ok text.toList := by
  rw [toUTF8_toList]
  exact decodeFrom_spelled text.toList 0

/-- The number of bytes of a text. -/
theorem length_toUTF8 (text : String) : text.toUTF8.toList.length = text.utf8ByteSize := by
  rw [ByteArray.toList, toList_loop, List.reverse_nil, List.nil_append, List.drop_zero]
  rfl

/-! ### Bytes that are read -/

theorem val_toNat_ofNat {v : Nat} (scalar : v.isValidChar) : (Char.ofNat v).val.toNat = v := by
  rw [Char.ofNat, dif_pos scalar]
  rfl

theorem ofNat_eq_byte (byte : UInt8) {n : Nat} (same : byte.toNat = n) : UInt8.ofNat n = byte := by
  rw [← same, UInt8.ofNat_toNat]

/-- A byte after the second one of a character. -/
def IsFurther (byte : UInt8) : Prop :=
  0x80 ≤ byte.toNat ∧ byte.toNat ≤ 0xBF

/-- The value that some further bytes give to a character, each with its last six bits. -/
def valueFrom (value : Nat) (bytes : List UInt8) : Nat :=
  bytes.foldl (fun value byte => value * 64 + (byte.toNat - 0x80)) value

theorem valueFrom_cons (value : Nat) (byte : UInt8) (bytes : List UInt8) :
    valueFrom value (byte :: bytes) = valueFrom (value * 64 + (byte.toNat - 0x80)) bytes := by
  rw [valueFrom, List.foldl_cons, valueFrom]

/-- A character that is read to its end has as many further bytes as it should. -/
theorem finish_eq_char {more value size size' : Nat} {rest : List UInt8} {c : Char}
    (read : finish more value size rest = .char c size') :
    ∃ tail after, rest = tail ++ after ∧ tail.length = more ∧ size' = size + more ∧
      c = Char.ofNat (valueFrom value tail) ∧ ∀ byte ∈ tail, IsFurther byte := by
  induction more generalizing value size rest with
  | zero =>
    obtain ⟨rfl, rfl⟩ := Head.char.inj read
    exact ⟨[], rest, rfl, rfl, rfl, rfl, nofun⟩
  | succ more ih =>
    cases rest with
    | nil => cases read
    | cons byte rest =>
      rw [finish] at read
      split at read
      · rename_i range
        obtain ⟨tail, after, rfl, length, bytes, code, ranges⟩ := ih read
        refine ⟨byte :: tail, after, rfl, congrArg (· + 1) length, ?_, ?_, ?_⟩
        · rw [bytes, Nat.add_assoc, Nat.add_comm 1]
        · rwa [valueFrom_cons]
        · exact List.forall_mem_cons.mpr ⟨range, ranges⟩
      · cases read

/-- The bytes of the character with a value. -/
theorem utf8EncodeChar_ofNat {v : Nat} (scalar : v.isValidChar) :
    String.utf8EncodeChar (Char.ofNat v) =
      if v ≤ 0x7F then [UInt8.ofNat v]
      else if v ≤ 0x7FF then [UInt8.ofNat (v / 64 % 32 + 192), UInt8.ofNat (v % 64 + 128)]
      else if v ≤ 0xFFFF then [UInt8.ofNat (v / 4096 % 16 + 224),
        UInt8.ofNat (v / 64 % 64 + 128), UInt8.ofNat (v % 64 + 128)]
      else [UInt8.ofNat (v / 262144 % 8 + 240), UInt8.ofNat (v / 4096 % 64 + 128),
        UInt8.ofNat (v / 64 % 64 + 128), UInt8.ofNat (v % 64 + 128)] := by
  unfold String.utf8EncodeChar
  rw [val_toNat_ofNat scalar]

section Spelled

variable {lead second third fourth : UInt8}

theorem encode_two (leads : 0xC2 ≤ lead.toNat ∧ lead.toNat ≤ 0xDF) (isSecond : IsFurther second) :
    String.utf8EncodeChar (Char.ofNat (valueFrom (lead.toNat - 0xC0) [second])) =
      [lead, second] := by
  obtain ⟨_, _⟩ := isSecond
  rw [valueFrom_cons, valueFrom, List.foldl_nil, utf8EncodeChar_ofNat (.inl (by omega)),
    if_neg (by omega), if_pos (by omega), ofNat_eq_byte lead (by omega),
    ofNat_eq_byte second (by omega)]

theorem encode_three (leads : 0xE0 ≤ lead.toNat ∧ lead.toNat ≤ 0xEF) (isSecond : IsFurther second)
    (isThird : IsFurther third) (notTwo : lead.toNat = 0xE0 → 0xA0 ≤ second.toNat)
    (noSurrogate : lead.toNat = 0xED → second.toNat ≤ 0x9F) :
    String.utf8EncodeChar (Char.ofNat (valueFrom (lead.toNat - 0xE0) [second, third])) =
      [lead, second, third] := by
  obtain ⟨_, _⟩ := isSecond
  obtain ⟨_, _⟩ := isThird
  have scalar : (((lead.toNat - 0xE0) * 64 + (second.toNat - 0x80)) * 64 +
      (third.toNat - 0x80)).isValidChar := by
    unfold Nat.isValidChar
    omega
  rw [valueFrom_cons, valueFrom_cons, valueFrom, List.foldl_nil, utf8EncodeChar_ofNat scalar,
    if_neg (by omega), if_neg (by omega), if_pos (by omega), ofNat_eq_byte lead (by omega),
    ofNat_eq_byte second (by omega), ofNat_eq_byte third (by omega)]

theorem encode_four (leads : 0xF0 ≤ lead.toNat ∧ lead.toNat ≤ 0xF4) (isSecond : IsFurther second)
    (isThird : IsFurther third) (isFourth : IsFurther fourth)
    (notThree : lead.toNat = 0xF0 → 0x90 ≤ second.toNat)
    (small : lead.toNat = 0xF4 → second.toNat ≤ 0x8F) :
    String.utf8EncodeChar (Char.ofNat (valueFrom (lead.toNat - 0xF0) [second, third, fourth])) =
      [lead, second, third, fourth] := by
  obtain ⟨_, _⟩ := isSecond
  obtain ⟨_, _⟩ := isThird
  obtain ⟨_, _⟩ := isFourth
  rw [valueFrom_cons, valueFrom_cons, valueFrom_cons, valueFrom, List.foldl_nil,
    utf8EncodeChar_ofNat (.inr (by omega)), if_neg (by omega), if_neg (by omega),
    if_neg (by omega), ofNat_eq_byte lead (by omega), ofNat_eq_byte second (by omega),
    ofNat_eq_byte third (by omega), ofNat_eq_byte fourth (by omega)]

end Spelled

/-- A first byte, a second one in the range that the first one tells, and as many further ones spell
the character with the value that they give. -/
theorem encode_of_continuation? {lead second : UInt8} {low high more : Nat} {tail : List UInt8}
    (found : continuation? lead.toNat = some (low, high, more)) (least : low ≤ second.toNat)
    (greatest : second.toNat ≤ high) (length : tail.length = more)
    (ranges : ∀ byte ∈ tail, IsFurther byte) :
    String.utf8EncodeChar (Char.ofNat (valueFrom (leadValue lead.toNat more) (second :: tail))) =
      lead :: second :: tail := by
  have two : leadValue lead.toNat 0 = lead.toNat - 0xC0 := rfl
  have three : leadValue lead.toNat 1 = lead.toNat - 0xE0 := rfl
  have four : leadValue lead.toNat 2 = lead.toNat - 0xF0 := rfl
  revert found
  fun_cases continuation? lead.toNat with
  | case1 range =>
    rintro ⟨⟩
    obtain rfl := List.length_eq_zero_iff.mp length
    rw [two]
    exact encode_two range ⟨least, greatest⟩
  | case2 | case3 | case4 =>
    rintro ⟨⟩
    obtain ⟨third, rfl⟩ := List.length_eq_one_iff.mp length
    have isThird := ranges third List.mem_cons_self
    rw [three]
    exact encode_three ⟨by omega, by omega⟩ ⟨by omega, by omega⟩ isThird (by omega) (by omega)
  | case5 | case6 | case7 =>
    rintro ⟨⟩
    obtain ⟨third, fourth, rfl⟩ := List.length_eq_two.mp length
    have isThird := ranges third List.mem_cons_self
    have isFourth := ranges fourth (List.mem_cons_of_mem _ List.mem_cons_self)
    rw [four]
    exact encode_four ⟨by omega, by omega⟩ ⟨by omega, by omega⟩ isThird isFourth (by omega) (by omega)
  | case8 => exact nofun

/-- **A character that is read is spelt by the bytes from which it is read.** -/
theorem spelled_of_nextChar {lead : UInt8} {rest : List UInt8} {c : Char} {size : Nat}
    (read : nextChar lead rest = .char c size) :
    ∃ tail after, rest = tail ++ after ∧ size = tail.length + 1 ∧
      String.utf8EncodeChar c = lead :: tail := by
  unfold nextChar at read
  dsimp only at read
  split at read
  · obtain ⟨rfl, rfl⟩ := Head.char.inj read
    refine ⟨[], rest, rfl, rfl, ?_⟩
    rw [utf8EncodeChar_ofNat (.inl (by omega)), if_pos (by omega), UInt8.ofNat_toNat]
  split at read
  · cases read
  rename_i notAscii low high more found
  split at read
  · cases read
  rename_i second after
  split at read
  · rename_i range
    obtain ⟨tail, after, rfl, length, rfl, rfl, ranges⟩ := finish_eq_char read
    refine ⟨second :: tail, after, rfl, ?_, ?_⟩
    · rw [List.length_cons, length]
      exact Nat.add_comm _ _
    · have spelled := encode_of_continuation? found range.1 range.2 length ranges
      rw [valueFrom_cons] at spelled
      exact spelled
  · cases read

/-- Bytes that are read are, after those that are left out, the bytes of the text. -/
theorem spelled_of_decodeFrom {bytes : List UInt8} {position skip : Nat} {text : List Char}
    (read : decodeFrom position skip bytes = .ok text) :
    bytes.drop skip = text.flatMap String.utf8EncodeChar := by
  fun_induction decodeFrom position skip bytes generalizing text with
  | case1 position skip =>
    obtain rfl := Except.ok.inj read
    exact List.drop_nil
  | case2 position skip byte rest ih => exact ih read
  | case3 position lead rest c size head ih =>
    obtain ⟨text', after, rfl⟩ := map_eq_ok.mp read
    obtain ⟨tail, further, rfl, rfl, bytes⟩ := spelled_of_nextChar head
    have spelled := ih after
    rw [Nat.add_sub_cancel, List.drop_left] at spelled
    rw [List.drop_zero, List.flatMap_cons, bytes, ← spelled]
    rfl
  | case4 => cases read

/-- **The bytes that are read are those that spell the text.** -/
theorem decode?_eq_ok_iff {bytes : List UInt8} {text : List Char} :
    decode? bytes = .ok text ↔ bytes = (String.ofList text).toUTF8.toList := by
  rw [toUTF8_toList, String.toList_ofList]
  refine ⟨fun read => spelled_of_decodeFrom read, ?_⟩
  rintro rfl
  exact decodeFrom_spelled text 0

end CodeBrief.Text.Utf8
