/-
**Settings.**

The settings of a project: how briefs are assembled, which files are listed and loaded, and how much
is remembered.

* `Settings.ofMembers`, `Settings.toJson` — settings from and as JSON objects.
* `Settings.set` — settings with the value under a dotted key replaced.
* `Settings.read`, `Settings.text` — settings from and as the text of a file.
-/

import CodeBrief.Json.Reader
import CodeBrief.Json.Writer
import CodeBrief.Session.Memory
import CodeBrief.Settings.Field

namespace CodeBrief

open Settings (Checked)
open Json (Value)

/-- How briefs are assembled. -/
structure BriefSettings where
  /-- The number of tokens that a brief should have at most. -/
  maxTokens : Int := 100000
  /-- The share of the tokens that is set aside for what is not selected. -/
  metadataReserve : Binary64 := .ofDecimal false 2 (-1)
  /-- Whether the analysis is included. -/
  includeAnalysis : Bool := true
  /-- Whether the memory is included. -/
  includeMemory : Bool := true
  deriving DecidableEq, Repr, Inhabited

/-- Which files are listed and how they are loaded. -/
structure ListingSettings where
  /-- The patterns of the paths that are left out. -/
  excludePatterns : List String :=
    ["node_modules", "__pycache__", ".git", ".repoctx", "dist", "build", "coverage", ".next",
      ".venv", "venv", "*.min.js", "*.min.css", "*.map", "*.lock", "*.png", "*.jpg", "*.gif",
      "*.ico", "*.woff", "*.woff2", "package-lock.json", "yarn.lock"]
  /-- The greatest size of a file, in units of 1024 bytes. -/
  maxFileSize : Int := 500
  /-- The number of files that may be loaded at the same time. -/
  maxConcurrent : Int := 16
  deriving DecidableEq, Repr, Inhabited

/-- The settings of a project. -/
structure Settings where
  /-- The name of the project. -/
  name : String := ""
  /-- The directory of the project. -/
  rootPath : String := "."
  /-- How briefs are assembled. -/
  brief : BriefSettings := {}
  /-- Which files are listed. -/
  listing : ListingSettings := {}
  /-- How much is remembered. -/
  memory : MemoryLimits := {}
  deriving DecidableEq, Repr, Inhabited

/-! ### As JSON -/

/-- The section about briefs as a JSON object. -/
def BriefSettings.toJson (section_ : BriefSettings) : Value :=
  .object [("max_tokens", .int section_.maxTokens),
    ("metadata_reserve", .float section_.metadataReserve),
    ("include_analysis", .bool section_.includeAnalysis),
    ("include_memory", .bool section_.includeMemory)]

/-- The section about listings as a JSON object. -/
def ListingSettings.toJson (section_ : ListingSettings) : Value :=
  .object [("exclude_patterns", .ofTexts section_.excludePatterns),
    ("max_file_size_kb", .int section_.maxFileSize),
    ("max_concurrent_fetches", .int section_.maxConcurrent)]

/-- The section about memory as a JSON object. -/
def MemoryLimits.toJson (section_ : MemoryLimits) : Value :=
  .object [("max_conversations", .int section_.conversations),
    ("max_recent_files", .int section_.recentFiles)]

/-- The settings as a JSON object. -/
def Settings.toJson (settings : Settings) : Value :=
  .object [("name", .string settings.name), ("root_path", .string settings.rootPath),
    ("context", settings.brief.toJson), ("indexer", settings.listing.toJson),
    ("memory", settings.memory.toJson)]

/-! ### From JSON -/

namespace Settings

/-- A whole number of at least one. -/
def positiveField (value : Value) : Checked Int :=
  .ofResult value ((readWhole value).bind (atLeast 1))

/-- A whole number from one to `greatest`. -/
def limitField (greatest : Nat) (value : Value) : Checked Nat :=
  .ofResult value (((readWhole value).bind (atMost greatest)).bind fun n =>
    (atLeast 1 n).map Int.toNat)

/-- A share. -/
def shareField (value : Value) : Checked Binary64 :=
  .ofResult value ((readNumber value).bind asShare)

end Settings

open Settings (textField textsField wholeField truthField positiveField limitField shareField)

/-- The section about briefs with some members; the others have their defaults. -/
def BriefSettings.ofMembers (members : List (String × Value)) : Checked BriefSettings :=
  let usual : BriefSettings := {}
  .ok BriefSettings.mk |>
    Checked.plus (Settings.optional members "max_tokens" positiveField usual.maxTokens) |>
    Checked.plus (Settings.optional members "metadata_reserve" shareField usual.metadataReserve) |>
    Checked.plus (Settings.optional members "include_analysis" truthField usual.includeAnalysis) |>
    Checked.plus (Settings.optional members "include_memory" truthField usual.includeMemory)

/-- The section about listings with some members; the others have their defaults. -/
def ListingSettings.ofMembers (members : List (String × Value)) : Checked ListingSettings :=
  let usual : ListingSettings := {}
  .ok ListingSettings.mk |>
    Checked.plus
      (Settings.optional members "exclude_patterns" textsField usual.excludePatterns) |>
    Checked.plus (Settings.optional members "max_file_size_kb" wholeField usual.maxFileSize) |>
    Checked.plus
      (Settings.optional members "max_concurrent_fetches" wholeField usual.maxConcurrent)

/-- The section about memory with some members; the others have their defaults. -/
def MemoryLimits.ofMembers (members : List (String × Value)) : Checked MemoryLimits :=
  let usual : MemoryLimits := {}
  .ok MemoryLimits.mk |>
    Checked.plus
      (Settings.optional members "max_conversations" (limitField 100) usual.conversations) |>
    Checked.plus (Settings.optional members "max_recent_files" (limitField 20) usual.recentFiles)

namespace Settings

/-- The settings with some members; the others have their defaults, and members of other names are
passed over. -/
def ofMembers (members : List (String × Value)) : Checked Settings :=
  let usual : Settings := {}
  .ok Settings.mk |>
    Checked.plus (optional members "name" textField usual.name) |>
    Checked.plus (optional members "root_path" textField usual.rootPath) |>
    Checked.plus
      (optional members "context" (readSection "ContextConfig" BriefSettings.ofMembers)
        usual.brief) |>
    Checked.plus
      (optional members "indexer" (readSection "IndexerConfig" ListingSettings.ofMembers)
        usual.listing) |>
    Checked.plus
      (optional members "memory" (readSection "MemoryConfig" MemoryLimits.ofMembers) usual.memory)

/-- The members of a value, none if it is no object. -/
def membersOf : Value → List (String × Value)
  | .object members => members
  | _ => []

/-! ### Keys -/

/-- Why a value cannot be set. -/
inductive SetError where
  /-- There is no such key. -/
  | unknownKey (key : String)
  /-- The settings with the value are not valid. -/
  | invalid (issues : List Issue)
  deriving Repr

/-- The wording of an unknown key. -/
def unknownKeyMessage (key : String) : String :=
  String.ofList (Text.quoted ("Invalid config key: " ++ key).toList)

/-- The names that a dotted key is made of. -/
def keyNames (key : String) : List String :=
  (Text.pieces (· == '.') key.toList).map String.ofList

/-- A value with the value at the end of a way through its members replaced, if the way leads
through objects to a member that is there. -/
def replaceAt? (new : Value) : (names : List String) → Value → Option Value
  | [], _ => some new
  | name :: rest, .object members =>
    match members.lookup name with
    | some inner => (replaceAt? new rest inner).map fun changed =>
        .object (members.map (replaceEntry name changed))
    | none => none
  | _ :: _, _ => none

/-- The settings with the value under a dotted key replaced. -/
def set (settings : Settings) (key : String) (value : Value) : Except SetError Settings :=
  match replaceAt? value (keyNames key) settings.toJson with
  | some changed => (ofMembers (membersOf changed)).mapError .invalid
  | none => .error (.unknownKey key)

/-- The value at the end of a way through the members of a value. -/
def valueAt? : (names : List String) → Value → Option Value
  | [], value => some value
  | name :: rest, value => (value.member? name).bind (valueAt? rest)

/-- The value under a dotted key. -/
def get? (settings : Settings) (key : String) : Option Value :=
  valueAt? (keyNames key) settings.toJson

/-! ### Files -/

/-- Why a text holds no settings. -/
inductive ReadError where
  /-- It is not JSON. -/
  | notJson (error : Json.ReadError)
  /-- It is JSON, but no object. -/
  | notObject (value : Value)
  /-- The settings are not valid. -/
  | invalid (issues : List Issue)
  deriving Repr

/-- The settings that a text holds, read with `room` for values within each other. -/
def read (room : Nat) (text : String) : Except ReadError Settings :=
  match Json.parse room text with
  | .error error => .error (.notJson error)
  | .ok (.object members) => (ofMembers members).mapError .invalid
  | .ok other => .error (.notObject other)

/-- The text of settings, as it is kept in a file. -/
def text (settings : Settings) : String :=
  Json.Style.settings.write settings.toJson

/-- The settings of a project that has none of its own: the defaults with its name and directory. -/
def initial (name rootPath : String) : Settings :=
  { name, rootPath }

end Settings

end CodeBrief
