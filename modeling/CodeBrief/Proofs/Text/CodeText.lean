/-
**Texts of code points that are texts of characters.**

* `legible_ofString` — a text of characters is legible as it stands.
* `encode_eq_ok_iff` — a text of code points can be encoded just if it is one of characters, and
  then it is encoded as that. The characters are read from the front; the first half of a surrogate
  pair among the code points stops this.
-/

import CodeBrief.Proofs.Outcome
import CodeBrief.Text.CodeText
import Mathlib.Logic.Function.Basic

namespace CodeBrief.CodeText

theorem legible_ofString (text : String) : (ofString text).legible = text := by
  rw [legible, ofString, List.map_map]
  exact (congrArg String.ofList (List.map_id text.toList)).trans String.ofList_toList

theorem ofString_injective : Function.Injective ofString :=
  Function.LeftInverse.injective legible_ofString

theorem encodeFrom_eq_ok_iff {points : List CodePoint} {position : Nat} {chars : List Char} :
    encodeFrom position points = .ok chars ↔ points = chars.map .char := by
  induction points generalizing position chars with
  | nil => cases chars <;> simp [encodeFrom]
  | cons point rest ih =>
    cases point with
    | char c =>
      rw [encodeFrom, map_eq_ok]
      simp only [ih]
      cases chars with
      | nil => simp
      | cons first others =>
        rw [List.map_cons, List.cons.injEq, CodePoint.char.injEq]
        constructor
        · rintro ⟨tail, same, joined⟩
          obtain ⟨rfl, rfl⟩ := List.cons.inj joined
          exact ⟨rfl, same⟩
        · rintro ⟨rfl, same⟩
          exact ⟨others, same, rfl⟩
    | half number => cases chars <;> simp [encodeFrom]

/-- **What can be encoded is a text of characters**, and is encoded as that text. -/
theorem encode_eq_ok_iff {text : CodeText} {encoded : String} :
    text.encode = .ok encoded ↔ text = ofString encoded := by
  rw [encode, map_eq_ok]
  simp only [encodeFrom_eq_ok_iff]
  constructor
  · rintro ⟨chars, same, rfl⟩
    rw [ofString, String.toList_ofList, ← same]
  · rintro rfl
    exact ⟨encoded.toList, rfl, String.ofList_toList⟩

end CodeBrief.CodeText
