/-
**Valid settings.**

Settings are valid if their numbers are within their bounds. Whatever is read from JSON is valid
(`valid_of_ofMembers`), since every field with a bound is read through a check of it, and so is every
default. And valid settings are read back from their own JSON (`ofMembers_toJson`), field by field.

* `Binary64.toRat?` — the number that a floating-point number is; `IsProper` — that it is from nought
  to below one. Shares are the numbers of this kind (`asShare_eq_ok_iff`).
* `plus_ok`, `ok_plus` — records with one more field.
* `Settings.Valid` — the bounds.
-/

import CodeBrief.Proofs.Ledger
import CodeBrief.Proofs.Selection.WorkingBudget
import CodeBrief.Proofs.Session.History
import CodeBrief.Settings.Basic

namespace CodeBrief

/-! ### Shares -/

namespace Binary64

/-- The number that a floating-point number is, if it is finite. -/
def toRat? : Binary64 → Option ℚ
  | .finite negative mantissa place =>
    some ((if negative then -1 else 1) * (mantissa * 2 ^ place))
  | _ => none

/-- A number is a proper fraction: from nought to below one. -/
def IsProper (number : Binary64) : Prop :=
  ∃ amount, number.toRat? = some amount ∧ 0 ≤ amount ∧ amount < 1

/-- A finite number is its fraction. -/
theorem fraction_value (negative : Bool) (mantissa : Nat) (place : Int) :
    ((fraction negative mantissa place).1 / (fraction negative mantissa place).2 : ℚ) =
      (if negative then -1 else 1) * (mantissa * 2 ^ place) := by
  have value := scaled_value mantissa 1 place
  rw [Nat.cast_one, div_one] at value
  rw [← value]
  unfold fraction
  cases negative with
  | false => simp
  | true =>
    simp only [if_true]
    push_cast
    ring

/-- The order of finite numbers is that of what they are. -/
theorem lt_finite_iff (negative sign : Bool) (mantissa mantissa' : Nat) (place place' : Int) :
    (Binary64.finite negative mantissa place).lt (.finite sign mantissa' place') = true ↔
      (if negative then -1 else 1) * (mantissa * 2 ^ place : ℚ) <
        (if sign then -1 else 1) * (mantissa' * 2 ^ place') := by
  have leftPos : (0 : ℚ) < (fraction negative mantissa place).2 := by
    exact_mod_cast fraction_snd_pos negative mantissa place
  have rightPos : (0 : ℚ) < (fraction sign mantissa' place').2 := by
    exact_mod_cast fraction_snd_pos sign mantissa' place'
  rw [← fraction_value, ← fraction_value, div_lt_div_iff₀ leftPos rightPos]
  simp only [lt, decide_eq_true_eq]
  exact_mod_cast Iff.rfl

theorem lt_one_iff (negative : Bool) (mantissa : Nat) (place : Int) :
    (Binary64.finite negative mantissa place).lt (.ofNat 1) = true ↔
      (if negative then -1 else 1) * (mantissa * 2 ^ place : ℚ) < 1 := by
  have one : ((2 ^ 52 : Nat) : ℚ) * 2 ^ (-52 : Int) = 1 := by norm_num
  rw [ofNat_one, lt_finite_iff, if_neg Bool.false_ne_true, one_mul, one]

theorem lt_zero_iff (negative : Bool) (mantissa : Nat) (place : Int) :
    (Binary64.finite negative mantissa place).lt (.ofNat 0) = true ↔
      (if negative then -1 else 1) * (mantissa * 2 ^ place : ℚ) < 0 := by
  rw [ofNat_zero, lt_finite_iff, Nat.cast_zero, zero_mul, mul_zero]

end Binary64

namespace Settings

open Json (Value)

/-- **A share is a proper fraction.** -/
theorem asShare_eq_ok_iff {number share : Binary64} :
    asShare number = .ok share ↔ share = number ∧ number.IsProper := by
  unfold asShare Binary64.IsProper
  cases number with
  | nan => simp [Binary64.lt, Binary64.toRat?]
  | infinite negative =>
    have one := Binary64.ofNat_one
    have zero := Binary64.ofNat_zero
    cases negative <;> simp [Binary64.lt, Binary64.toRat?, one, zero]
  | finite negative mantissa place =>
    have below := Binary64.lt_one_iff negative mantissa place
    have under := Binary64.lt_zero_iff negative mantissa place
    simp only [Binary64.toRat?, Option.some.injEq, exists_eq_left']
    generalize (if negative then -1 else 1) * (mantissa * 2 ^ place : ℚ) = amount at *
    by_cases small : (Binary64.finite negative mantissa place).lt (.ofNat 1) = true
    · by_cases less : (Binary64.finite negative mantissa place).lt (.ofNat 0) = true
      · simp [small, less, not_le.mpr (under.mp less)]
      · simp [small, less, below.mp small, not_lt.mp (mt under.mpr less), eq_comm]
    · simp [small, mt below.mpr small]

/-! ### Bounds -/

theorem atLeast_eq_ok_iff {least n m : Int} : atLeast least n = .ok m ↔ m = n ∧ least ≤ n := by
  unfold atLeast
  split
  · rename_i less
    simp [not_le.mpr less]
  · rename_i fits
    simp [not_lt.mp fits, eq_comm]

theorem atMost_eq_ok_iff {greatest n m : Int} :
    atMost greatest n = .ok m ↔ m = n ∧ n ≤ greatest := by
  unfold atMost
  split
  · rename_i more
    simp [not_le.mpr more]
  · rename_i fits
    simp [not_lt.mp fits, eq_comm]

/-! ### Records -/

namespace Checked

variable {α β : Type}

@[simp] theorem plus_ok (value : α) (record : Checked (α → β)) :
    plus (.ok value) record = record.map (· value) := by
  cases record <;> rfl

@[simp] theorem ok_plus (value : Checked α) (make : α → β) : plus value (.ok make) = value.map make := by
  cases value <;> rfl

theorem plus_eq_ok {value : Checked α} {record : Checked (α → β)} {result : β} :
    plus value record = .ok result ↔
      ∃ make, record = .ok make ∧ ∃ held, value = .ok held ∧ make held = result := by
  cases value <;> cases record <;> simp [plus]

@[simp] theorem under_ok (step : Step) (value : α) : under step (.ok value) = .ok value := rfl

@[simp] theorem map_ok (value : α) (change : α → β) :
    Except.map change (.ok value : Checked α) = .ok (change value) := rfl

@[simp] theorem map_map {γ : Type} (value : Checked α) (change : α → β) (change' : β → γ) :
    Except.map change' (Except.map change value) = Except.map (change' ∘ change) value := by
  cases value <;> rfl

@[simp] theorem under_map (step : Step) (value : Checked α) (change : α → β) :
    under step (value.map change) = (under step value).map change := by
  cases value <;> rfl

end Checked

section Member

variable {α : Type} {members : List (String × Value)} {name : String} {read : Value → Checked α}
  {usual : α}

/-- A property of what is read that the default has too. -/
theorem of_optional {P : α → Prop} {held : α} (isHeld : optional members name read usual = .ok held)
    (default : P usual) (given : ∀ value, read value = .ok held → P held) : P held := by
  unfold optional memberOr at isHeld
  rw [Checked.under, mapError_eq_ok] at isHeld
  split at isHeld
  · exact given _ isHeld
  · cases isHeld
    exact default

end Member

/-! ### Fields -/

@[simp] theorem textField_string (text : String) : textField (.string text) = .ok text := rfl

@[simp] theorem wholeField_int (n : Int) : wholeField (.int n) = .ok n := rfl

@[simp] theorem truthField_bool (truth : Bool) : truthField (.bool truth) = .ok truth := rfl

theorem of_positiveField {value : Value} {n : Int} (read : positiveField value = .ok n) : 1 ≤ n := by
  obtain ⟨whole, -, fits⟩ := bind_eq_ok.mp (mapError_eq_ok.mp read)
  obtain ⟨rfl, le⟩ := atLeast_eq_ok_iff.mp fits
  exact le

theorem of_limitField {greatest : Nat} {value : Value} {n : Nat}
    (read : limitField greatest value = .ok n) : 1 ≤ n ∧ n ≤ greatest := by
  obtain ⟨whole, isBelow, rest⟩ := bind_eq_ok.mp (mapError_eq_ok.mp read)
  obtain ⟨count, -, bounded⟩ := bind_eq_ok.mp isBelow
  obtain ⟨rfl, le⟩ := atMost_eq_ok_iff.mp bounded
  obtain ⟨_, positive, rfl⟩ := map_eq_ok.mp rest
  obtain ⟨rfl, one⟩ := atLeast_eq_ok_iff.mp positive
  omega

theorem of_shareField {value : Value} {share : Binary64} (read : shareField value = .ok share) :
    share.IsProper := by
  obtain ⟨number, -, fits⟩ := bind_eq_ok.mp (mapError_eq_ok.mp read)
  obtain ⟨rfl, bounds⟩ := asShare_eq_ok_iff.mp fits
  exact bounds

theorem positiveField_int {n : Int} (le : 1 ≤ n) : positiveField (.int n) = .ok n :=
  mapError_eq_ok.mpr (atLeast_eq_ok_iff.mpr ⟨rfl, le⟩)

theorem limitField_int {greatest n : Nat} (positive : 1 ≤ n) (le : n ≤ greatest) :
    limitField greatest (.int n) = .ok n := by
  refine mapError_eq_ok.mpr (bind_eq_ok.mpr ⟨n, ?_, ?_⟩)
  · exact atMost_eq_ok_iff.mpr ⟨rfl, by exact_mod_cast le⟩
  · exact map_eq_ok.mpr ⟨n, atLeast_eq_ok_iff.mpr ⟨rfl, by exact_mod_cast positive⟩, rfl⟩

theorem shareField_float {share : Binary64} (proper : share.IsProper) :
    shareField (.float share) = .ok share :=
  mapError_eq_ok.mpr (asShare_eq_ok_iff.mpr ⟨rfl, proper⟩)

theorem readItems_textField (texts : List String) (number : Nat) :
    readItems textField number (texts.map .string) = .ok texts := by
  induction texts generalizing number with
  | nil => rfl
  | cons text rest ih =>
    show Checked.plus (readItems textField (number + 1) (rest.map .string)) _ = _
    rw [ih]
    rfl

@[simp] theorem textsField_ofTexts (texts : List String) : textsField (.ofTexts texts) = .ok texts :=
  readItems_textField texts 0

end Settings

/-! ### Valid settings -/

/-- The bounds of the settings about briefs. -/
structure BriefSettings.Valid (section_ : BriefSettings) : Prop where
  tokens : 1 ≤ section_.maxTokens
  reserve : section_.metadataReserve.IsProper

/-- The bounds of the settings about memory. -/
structure MemoryLimits.Valid (limits : MemoryLimits) : Prop where
  conversations : 1 ≤ limits.conversations ∧ limits.conversations ≤ 100
  recentFiles : 1 ≤ limits.recentFiles ∧ limits.recentFiles ≤ 20

/-- The bounds of settings. -/
structure Settings.Valid (settings : Settings) : Prop where
  brief : settings.brief.Valid
  memory : settings.memory.Valid

theorem BriefSettings.valid_default : ({} : BriefSettings).Valid where
  tokens := by decide
  reserve := by
    have share : ({} : BriefSettings).metadataReserve = .finite false 7205759403792794 (-55) := by
      decide +kernel
    exact ⟨_, congrArg _ share, by norm_num, by norm_num⟩

theorem MemoryLimits.valid_default : ({} : MemoryLimits).Valid where
  conversations := by decide
  recentFiles := by decide

theorem Settings.valid_default : ({} : Settings).Valid where
  brief := BriefSettings.valid_default
  memory := MemoryLimits.valid_default

/-! ### What is read is valid -/

section Read

variable {members : List (String × Json.Value)}

open Settings (Checked of_optional of_positiveField of_shareField of_limitField)

theorem BriefSettings.valid_of_ofMembers {section_ : BriefSettings}
    (read : ofMembers members = .ok section_) : section_.Valid := by
  obtain ⟨_, record₁, memory, -, rfl⟩ := Checked.plus_eq_ok.mp read
  obtain ⟨_, record₂, analysis, -, rfl⟩ := Checked.plus_eq_ok.mp record₁
  obtain ⟨_, record₃, reserve, isReserve, rfl⟩ := Checked.plus_eq_ok.mp record₂
  obtain ⟨_, record₄, tokens, isTokens, rfl⟩ := Checked.plus_eq_ok.mp record₃
  cases record₄
  exact
    { tokens := of_optional (P := (1 ≤ ·)) isTokens valid_default.tokens
        fun _ => of_positiveField
      reserve := of_optional isReserve valid_default.reserve fun _ => of_shareField }

theorem MemoryLimits.valid_of_ofMembers {limits : MemoryLimits}
    (read : ofMembers members = .ok limits) : limits.Valid := by
  obtain ⟨_, record₁, recent, isRecent, rfl⟩ := Checked.plus_eq_ok.mp read
  obtain ⟨_, record₂, conversations, isConversations, rfl⟩ := Checked.plus_eq_ok.mp record₁
  cases record₂
  exact
    { conversations := of_optional (P := fun n => 1 ≤ n ∧ n ≤ 100) isConversations
        valid_default.conversations fun _ => of_limitField
      recentFiles := of_optional (P := fun n => 1 ≤ n ∧ n ≤ 20) isRecent
        valid_default.recentFiles fun _ => of_limitField }

@[simp] theorem Settings.readSection_object {α : Type} (kind : String)
    (read : List (String × Json.Value) → Checked α) (members : List (String × Json.Value)) :
    readSection kind read (.object members) = read members := rfl

theorem Settings.readSection_eq_ok {α : Type} {kind : String}
    {read : List (String × Json.Value) → Checked α} {value : Json.Value} {result : α} :
    readSection kind read value = .ok result ↔
      ∃ members, value = .object members ∧ read members = .ok result := by
  cases value <;> simp [readSection]

/-- **Settings that are read are valid.** -/
theorem Settings.valid_of_ofMembers {settings : Settings}
    (read : ofMembers members = .ok settings) : settings.Valid := by
  obtain ⟨_, record₁, memory, isMemory, rfl⟩ := Checked.plus_eq_ok.mp read
  obtain ⟨_, record₂, listing, -, rfl⟩ := Checked.plus_eq_ok.mp record₁
  obtain ⟨_, record₃, brief, isBrief, rfl⟩ := Checked.plus_eq_ok.mp record₂
  obtain ⟨_, record₄, rootPath, -, rfl⟩ := Checked.plus_eq_ok.mp record₃
  obtain ⟨_, record₅, name, -, rfl⟩ := Checked.plus_eq_ok.mp record₄
  cases record₅
  refine { brief := of_optional isBrief BriefSettings.valid_default fun _ given => ?_
           memory := of_optional isMemory MemoryLimits.valid_default fun _ given => ?_ }
  · obtain ⟨inner, -, read⟩ := readSection_eq_ok.mp given
    exact BriefSettings.valid_of_ofMembers read
  · obtain ⟨inner, -, read⟩ := readSection_eq_ok.mp given
    exact MemoryLimits.valid_of_ofMembers read

end Read

/-! ### Valid settings are read back -/

section ReadBack

open Json (Value)
open Settings (Checked readSection memberOr textField wholeField truthField textsField
  positiveField shareField limitField positiveField_int shareField_float limitField_int)

theorem BriefSettings.ofMembers_members (tokens reserve analysis memory : Value) :
    ofMembers [("max_tokens", tokens), ("metadata_reserve", reserve),
        ("include_analysis", analysis), ("include_memory", memory)] =
      (.ok mk |> Checked.plus (.under (.member "max_tokens") (positiveField tokens)) |>
        Checked.plus (.under (.member "metadata_reserve") (shareField reserve)) |>
        Checked.plus (.under (.member "include_analysis") (truthField analysis)) |>
        Checked.plus (.under (.member "include_memory") (truthField memory))) := by
  simp [ofMembers, Settings.optional, memberOr, List.lookup_cons]

theorem ListingSettings.ofMembers_members (patterns size count : Value) :
    ofMembers [("exclude_patterns", patterns), ("max_file_size_kb", size),
        ("max_concurrent_fetches", count)] =
      (.ok mk |> Checked.plus (.under (.member "exclude_patterns") (textsField patterns)) |>
        Checked.plus (.under (.member "max_file_size_kb") (wholeField size)) |>
        Checked.plus (.under (.member "max_concurrent_fetches") (wholeField count))) := by
  simp [ofMembers, Settings.optional, memberOr, List.lookup_cons]

theorem MemoryLimits.ofMembers_members (conversations recent : Value) :
    ofMembers [("max_conversations", conversations), ("max_recent_files", recent)] =
      (.ok mk |>
        Checked.plus (.under (.member "max_conversations") (limitField 100 conversations)) |>
        Checked.plus (.under (.member "max_recent_files") (limitField 20 recent))) := by
  simp [ofMembers, Settings.optional, memberOr, List.lookup_cons]

theorem Settings.ofMembers_members (name rootPath brief listing memory : Value) :
    ofMembers [("name", name), ("root_path", rootPath), ("context", brief), ("indexer", listing),
        ("memory", memory)] =
      (.ok mk |> Checked.plus (.under (.member "name") (textField name)) |>
        Checked.plus (.under (.member "root_path") (textField rootPath)) |>
        Checked.plus (.under (.member "context")
          (readSection "ContextConfig" BriefSettings.ofMembers brief)) |>
        Checked.plus (.under (.member "indexer")
          (readSection "IndexerConfig" ListingSettings.ofMembers listing)) |>
        Checked.plus (.under (.member "memory")
          (readSection "MemoryConfig" MemoryLimits.ofMembers memory))) := by
  simp [ofMembers, Settings.optional, memberOr, List.lookup_cons]

theorem BriefSettings.readSection_toJson {section_ : BriefSettings} (valid : section_.Valid) :
    readSection "ContextConfig" ofMembers section_.toJson = .ok section_ := by
  simp [toJson, ofMembers_members, positiveField_int valid.tokens,
    shareField_float valid.reserve]

@[simp] theorem ListingSettings.readSection_toJson (section_ : ListingSettings) :
    readSection "IndexerConfig" ofMembers section_.toJson = .ok section_ := by
  simp [toJson, ofMembers_members]

theorem MemoryLimits.readSection_toJson {limits : MemoryLimits} (valid : limits.Valid) :
    readSection "MemoryConfig" ofMembers limits.toJson = .ok limits := by
  simp [toJson, ofMembers_members,
    limitField_int valid.conversations.1 valid.conversations.2,
    limitField_int valid.recentFiles.1 valid.recentFiles.2]

/-- **Valid settings are read back from their JSON.** -/
theorem Settings.ofMembers_toJson {settings : Settings} (valid : settings.Valid) :
    ofMembers (membersOf settings.toJson) = .ok settings := by
  simp [toJson, membersOf, ofMembers_members, BriefSettings.readSection_toJson valid.brief,
    MemoryLimits.readSection_toJson valid.memory]

end ReadBack

end CodeBrief
