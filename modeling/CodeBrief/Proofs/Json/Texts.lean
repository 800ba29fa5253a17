/-
**Texts are read as they are written.**

Between its quotes every character is written as itself or as an escape, and an escape is read as the
one character that it was written for. A character beyond sixteen bits has two escapes, the halves of
a surrogate pair, which are read together; no half is ever left alone.

* `hexUnit?_hexadecimal` — four hexadecimal digits are read as the unit that they spell.
* `readText_writeChar` — one character, in front of others.
* `readString_writeText` — a whole text.
-/

import CodeBrief.Json.Reader
import CodeBrief.Json.Writer
import Mathlib.Tactic.IntervalCases

namespace CodeBrief.Json

open Text (hexDigit hexadecimal)

/-! ### Units of sixteen bits -/

theorem hexValue?_hexDigit {n : Nat} (small : n < 16) : hexValue? (hexDigit n) = some n := by
  interval_cases n <;> rfl

theorem hexadecimal_four (n : Nat) :
    hexadecimal 4 n =
      [hexDigit (n / 16 / 16 / 16 % 16), hexDigit (n / 16 / 16 % 16), hexDigit (n / 16 % 16),
        hexDigit (n % 16)] := rfl

/-- Four hexadecimal digits with something behind them. -/
theorem hexUnit?_hexadecimal {n : Nat} (small : n < 0x10000) {rest : List Char}
    (more : rest ≠ []) : hexUnit? (hexadecimal 4 n ++ rest) = some n := by
  obtain ⟨next, rest, rfl⟩ := List.exists_cons_of_ne_nil more
  have digit : ∀ m : Nat, hexValue? (hexDigit (m % 16)) = some (m % 16) :=
    fun m => hexValue?_hexDigit (Nat.mod_lt m (by decide))
  rw [hexadecimal_four]
  simp only [List.cons_append, List.nil_append, hexUnit?, digit, Option.bind_eq_bind,
    Option.bind_some, Option.pure_def, Option.some.injEq]
  omega

theorem isHighSurrogate_iff {n : Nat} : isHighSurrogate n = true ↔ 0xD800 ≤ n ∧ n < 0xDC00 := by
  simp [isHighSurrogate]

theorem isLowSurrogate_iff {n : Nat} : isLowSurrogate n = true ↔ 0xDC00 ≤ n ∧ n < 0xE000 := by
  simp [isLowSurrogate]

theorem toNat_scalar (c : Char) : c.toNat < 0xD800 ∨ 0xDFFF < c.toNat ∧ c.toNat < 0x110000 :=
  c.valid

/-- The code point of a character is that character. -/
theorem ofNat_toNat (c : Char) : CodePoint.ofNat c.toNat = .char c := by
  have scalar := toNat_scalar c
  rw [CodePoint.ofNat, dif_neg (by omega), Char.ofNat_toNat]

/-! ### Escapes -/

theorem unicodeEscape_unit {c : Char} (small : c.toNat < 0x10000) {rest : List Char}
    (more : rest ≠ []) : unicodeEscape (hexadecimal 4 c.toNat ++ rest) = .ok (.char c, 4) := by
  have scalar := toNat_scalar c
  have high : isHighSurrogate c.toNat = false := by
    rw [← Bool.not_eq_true, isHighSurrogate_iff]
    omega
  unfold unicodeEscape
  rw [hexUnit?_hexadecimal small more]
  simp [high, ofNat_toNat]

/-- **The two halves of a surrogate pair are read together.** -/
theorem unicodeEscape_pair {unit unit' : Nat} (high : isHighSurrogate unit = true)
    (low : isLowSurrogate unit' = true) {rest : List Char} (more : rest ≠ []) :
    unicodeEscape (hexadecimal 4 unit ++ '\\' :: 'u' :: (hexadecimal 4 unit' ++ rest)) =
      .ok (.ofNat (0x10000 + (unit - 0xD800) * 0x400 + (unit' - 0xDC00)), 10) := by
  have first := (isHighSurrogate_iff.mp high).2
  have second := (isLowSurrogate_iff.mp low).2
  have long : ¬ (hexadecimal 4 unit' ++ rest).length ≤ 4 := by
    have := List.length_pos_iff.mpr more
    rw [List.length_append, hexadecimal_four]
    simp only [List.length_cons, List.length_nil]
    omega
  have dropped : ∀ rest : List Char, (hexadecimal 4 unit ++ rest).drop 4 = rest := fun _ => rfl
  unfold unicodeEscape
  rw [hexUnit?_hexadecimal (by omega) (by simp), dropped]
  simp only [high, if_neg long, hexUnit?_hexadecimal (show unit' < 0x10000 by omega) more, low,
    if_true]

/-- The halves for a character beyond sixteen bits. -/
theorem unicodeEscape_char {c : Char} (large : 0x10000 ≤ c.toNat) {rest : List Char}
    (more : rest ≠ []) :
    unicodeEscape (hexadecimal 4 (0xD800 + (c.toNat - 0x10000) / 0x400) ++
        '\\' :: 'u' :: (hexadecimal 4 (0xDC00 + (c.toNat - 0x10000) % 0x400) ++ rest)) =
      .ok (.char c, 10) := by
  have scalar := toNat_scalar c
  have high : isHighSurrogate (0xD800 + (c.toNat - 0x10000) / 0x400) = true :=
    isHighSurrogate_iff.mpr (by omega)
  have low : isLowSurrogate (0xDC00 + (c.toNat - 0x10000) % 0x400) = true :=
    isLowSurrogate_iff.mpr (by omega)
  have code : 0x10000 + (0xD800 + (c.toNat - 0x10000) / 0x400 - 0xD800) * 0x400 +
      (0xDC00 + (c.toNat - 0x10000) % 0x400 - 0xDC00) = c.toNat := by omega
  rw [unicodeEscape_pair high low more, code, ofNat_toNat]

/-! ### Characters -/

section Characters

variable {opened : Nat} {rest : List Char}

theorem readText_skip (opened : Nat) (left rest : List Char) :
    readText opened left.length (left ++ rest) = readText opened 0 rest := by
  induction left with
  | nil => rfl
  | cons c left ih => simpa [readText] using ih

/-- A character in front of a text that is read. -/
def before (c : Char) : List CodePoint × List Char → List CodePoint × List Char :=
  fun (text, after) => (.char c :: text, after)

theorem readText_escape {c : Char} {left : List Char}
    (read : escape opened (left ++ rest) = .ok (.char c, left.length)) :
    readText opened 0 ('\\' :: (left ++ rest)) = (readText opened 0 rest).map (before c) := by
  rw [readText, read]
  dsimp only
  rw [readText_skip]
  rfl

theorem readText_plain {c : Char} (noQuote : c ≠ '"') (noBackslash : c ≠ '\\')
    (shown : 32 ≤ c.toNat) : readText opened 0 (c :: rest) = (readText opened 0 rest).map (before c) := by
  rw [readText, if_neg (Nat.not_lt.mpr shown)]
  · rfl
  · simpa using noQuote
  · simpa using noBackslash

theorem readText_unitEscape {c : Char} (small : c.toNat < 0x10000) (more : rest ≠ []) :
    readText opened 0 (unitEscape c.toNat ++ rest) = (readText opened 0 rest).map (before c) := by
  have read : escape opened (('u' :: hexadecimal 4 c.toNat) ++ rest) = .ok (.char c, 5) := by
    rw [List.cons_append, escape, unicodeEscape_unit small more]
    rfl
  exact readText_escape read

theorem readText_pairEscape {c : Char} (large : 0x10000 ≤ c.toNat) (more : rest ≠ []) :
    readText opened 0 (unitEscape (0xD800 + (c.toNat - 0x10000) / 0x400) ++
        unitEscape (0xDC00 + (c.toNat - 0x10000) % 0x400) ++ rest) =
      (readText opened 0 rest).map (before c) := by
  have pair := unicodeEscape_char large more
  generalize 0xD800 + (c.toNat - 0x10000) / 0x400 = unit at *
  generalize 0xDC00 + (c.toNat - 0x10000) % 0x400 = unit' at *
  have read : escape opened (('u' :: hexadecimal 4 unit ++ '\\' :: 'u' :: hexadecimal 4 unit') ++ rest) =
      .ok (.char c, 11) := by
    rw [List.append_assoc, List.cons_append, List.cons_append, List.cons_append, escape, pair]
    rfl
  exact readText_escape read

theorem eq_ofNat {c : Char} {n : Nat} (code : c.toNat = n) : c = Char.ofNat n := by
  rw [← code, Char.ofNat_toNat]

/-- **One character is read as it is written**, in front of others. -/
theorem readText_writeChar (style : Style) (c : Char) (more : rest ≠ []) :
    readText opened 0 (style.writeChar c ++ rest) = (readText opened 0 rest).map (before c) := by
  have scalar := toNat_scalar c
  have short : ∀ {mark : Char}, escape opened (mark :: rest) = .ok (.char c, 1) →
      readText opened 0 (['\\', mark] ++ rest) = (readText opened 0 rest).map (before c) :=
    fun {mark} read => @readText_escape opened rest c [mark] read
  unfold Style.writeChar
  dsimp only
  split
  · rename_i quote
    subst quote
    exact short rfl
  rename_i noQuote
  split
  · rename_i backslash
    subst backslash
    exact short rfl
  rename_i noBackslash
  iterate 5
    split
    · rename_i code
      rw [eq_ofNat code] at short ⊢
      exact short rfl
  split
  · exact readText_unitEscape (by omega) more
  rename_i shown
  split
  · split
    · rename_i small
      exact readText_unitEscape small more
    · rename_i large
      exact readText_pairEscape (not_lt.mp large) more
  · exact readText_plain noQuote noBackslash (not_lt.mp shown)

theorem readText_flatMap (style : Style) (chars : List Char) :
    readText opened 0 (chars.flatMap style.writeChar ++ '"' :: rest) =
      .ok (chars.map .char, rest) := by
  induction chars with
  | nil => rfl
  | cons c chars ih =>
    rw [List.flatMap_cons, List.append_assoc, readText_writeChar style c (by simp), ih]
    rfl

/-- **A text is read as it is written.** -/
theorem readString_writeText (style : Style) (text : String) (rest : List Char) :
    readString (text.toList.flatMap style.writeChar ++ '"' :: rest) = .ok (.ofString text, rest) := by
  unfold readString
  rw [readText_flatMap]
  rfl

end Characters

end CodeBrief.Json
