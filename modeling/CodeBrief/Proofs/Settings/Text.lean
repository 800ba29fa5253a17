/-
**Settings are read from their own text.**

The text of a settings file spells the settings from which it was written, if they are valid and each
of their numbers can be read again.

* `Settings.IsReadable` — the latter: integers with no more digits than are read, and a share that is a
  floating-point number.
* `Settings.isReadable_toJson` — then their JSON is readable.
* `Settings.read_text`, `Settings.ofBytes_text` — so they are read from the text and from its bytes.
-/

import CodeBrief.Proofs.Json.LineBreaks
import CodeBrief.Proofs.Settings.Validity
import CodeBrief.Settings.File

namespace CodeBrief

open Json (Value ValueOf)
open Text (spell digitLimit)

/-- The numbers of settings can be read again. -/
structure Settings.IsReadable (settings : Settings) : Prop where
  tokens : (spell settings.brief.maxTokens.natAbs).length ≤ digitLimit
  reserve : settings.brief.metadataReserve.IsFinite
  size : (spell settings.listing.maxFileSize.natAbs).length ≤ digitLimit
  concurrent : (spell settings.listing.maxConcurrent.natAbs).length ≤ digitLimit

/-! ### Their JSON is readable -/

theorem Json.isReadable_ofTexts (texts : List String) : Json.IsReadable (.ofTexts texts) := by
  refine .array fun item member => ?_
  obtain ⟨text, -, rfl⟩ := List.mem_map.mp member
  exact .string text

theorem Json.depth_ofTexts (texts : List String) : (ValueOf.ofTexts texts).depth ≤ 2 := by
  have items : ValueOf.depthOfItems (texts.map .string) ≤ 1 := by
    induction texts with
    | nil => exact Nat.zero_le 1
    | cons text rest ih => exact max_le (Nat.le_refl 1) ih
  exact Nat.succ_le_succ items

/-- A bound of few digits. -/
theorem length_spell_le_of_le {n : Nat} (le : n ≤ 100) : (spell n).length ≤ digitLimit := by
  have few := Text.length_spell_le n
  have roomy : 11 ≤ digitLimit := by decide
  omega

section Parts

variable {settings : Settings}

theorem BriefSettings.isReadable_toJson (readable : settings.IsReadable) :
    Json.IsReadable settings.brief.toJson := by
  refine .object (by simp) ?_
  simp only [List.forall_mem_cons]
  exact ⟨.int readable.tokens, .float readable.reserve, .bool _, .bool _, nofun⟩

theorem ListingSettings.isReadable_toJson (readable : settings.IsReadable) :
    Json.IsReadable settings.listing.toJson := by
  refine .object (by simp) ?_
  simp only [List.forall_mem_cons]
  exact ⟨Json.isReadable_ofTexts _, .int readable.size, .int readable.concurrent, nofun⟩

theorem MemoryLimits.isReadable_toJson {limits : MemoryLimits} (valid : limits.Valid) :
    Json.IsReadable limits.toJson := by
  have recent : limits.recentFiles ≤ 100 := valid.recentFiles.2.trans (by decide)
  refine .object (by simp) ?_
  simp only [List.forall_mem_cons]
  exact ⟨.int (length_spell_le_of_le valid.conversations.2), .int (length_spell_le_of_le recent),
    nofun⟩

/-- **The JSON of valid settings is readable** if their numbers are. -/
theorem Settings.isReadable_toJson (valid : settings.Valid) (readable : settings.IsReadable) :
    Json.IsReadable settings.toJson := by
  refine .object (by simp) ?_
  simp only [List.forall_mem_cons]
  exact ⟨.string _, .string _, BriefSettings.isReadable_toJson readable,
    ListingSettings.isReadable_toJson readable, MemoryLimits.isReadable_toJson valid.memory, nofun⟩

theorem Settings.depth_toJson (settings : Settings) : settings.toJson.depth ≤ 4 := by
  have patterns := Json.depth_ofTexts settings.listing.excludePatterns
  simp only [toJson, BriefSettings.toJson, ListingSettings.toJson, MemoryLimits.toJson, ValueOf.depth,
    ValueOf.depthOfMembers]
  omega

end Parts

namespace Settings

variable {settings : Settings} (valid : settings.Valid) (readable : settings.IsReadable)
include valid readable

/-! ### Their text is read -/

variable {room : Nat} (roomy : 4 ≤ room)
include roomy

/-- **Settings are read from their own text.** -/
theorem read_text : read room (text settings) = .ok settings := by
  have parsed := Json.parse_write .settings (isReadable_toJson valid readable)
    ((depth_toJson settings).trans roomy)
  have checked := ofMembers_toJson valid
  unfold read text
  rw [parsed]
  show (ofMembers (membersOf settings.toJson)).mapError ReadError.invalid = _
  rw [checked]
  rfl

/-- **The bytes of their text are read as the settings.** -/
theorem ofBytes_text : ofBytes room (text settings).toUTF8.toList = .ok settings := by
  have unbroken : Json.IsUnbroken (text settings).toList := by
    rw [text, Json.Style.write, String.toList_ofList]
    exact Json.isUnbroken_writeAt .settings (isReadable_toJson valid readable) 0
  unfold ofBytes
  rw [Json.strictText_toUTF8 unbroken]
  dsimp only
  rw [read_text valid readable roomy]
  rfl

end Settings

end CodeBrief
