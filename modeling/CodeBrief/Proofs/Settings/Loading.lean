/-
**How loading the settings of a project can fail.**

Settings that cannot be loaded are reported if their text is no JSON or if they are not valid; nothing
handles any other error. Of the bytes of a settings file, those are answered, by valid settings or by a
report, that spell a text at which reading JSON is not given up and which is no other JSON than an
object.

* `Settings.LoadError.IsReported` — the errors that are reported; `loadSettings_unhandled_iff` — the
  others end a request with a failure.
* `valid_of_ofBytes` — settings that some bytes spell are valid.
* `load_isAnswered_iff` — which bytes are answered; `not_answered_strayByte` is a byte that is not.
-/

import CodeBrief.CommandLine.Terminal
import CodeBrief.Proofs.Json.Limits
import CodeBrief.Proofs.Settings.File

namespace CodeBrief

open CommandLine (Terminal Stop Action loadSettings refuse)

/-! ### Errors that are reported -/

/-- An error with which the program tells where the settings are and what is wrong with them. -/
def Settings.LoadError.IsReported : Settings.LoadError → Prop
  | .unreadable (.notJson error) => error.IsMalformed
  | .unreadable (.invalid _) => True
  | _ => False

/-- An action that looks at the terminal first goes on with it. -/
theorem run_get_bind {α : Type} (next : Terminal → Action α) (terminal : Terminal) :
    (get >>= next).run terminal = (next terminal).run terminal := rfl

/-- What is shown before an exit, if it can be shown, has no say in the failures to load. -/
theorem showWith_exit_ne_load (make : Nat → Except Markup.Problem (List Console.Line))
    (terminal : Terminal) (root : ProjectRoot) (error : Settings.LoadError) :
    ((CommandLine.showWith make >>= fun _ => (throw (Stop.exit 1) : Action Settings)).run
      terminal).1 ≠ .error (.failure (.load root error)) := by
  rw [CommandLine.showWith, bind_assoc, run_get_bind]
  cases make terminal.width with
  | ok lines => rintro ⟨⟩
  | error problem => rintro ⟨⟩

/-- A refusal is no failure to load. -/
theorem refuse_ne_load (message : String) (terminal : Terminal) (root : ProjectRoot)
    (error : Settings.LoadError) :
    ((refuse message : Action Settings).run terminal).1 ≠ .error (.failure (.load root error)) :=
  showWith_exit_ne_load _ terminal root error

/-- **Errors that are not reported end a request with a failure.** -/
theorem loadSettings_unhandled_iff (terminal : Terminal) (root : ProjectRoot)
    (error : Settings.LoadError) :
    ((loadSettings root).run terminal).1 = .error (.failure (.load root error)) ↔
      Settings.load terminal.room terminal.tree root = .error error ∧ ¬ error.IsReported := by
  have unhandled : ∀ {error' : Settings.LoadError}, ¬ error'.IsReported →
      (((throw (Stop.failure (.load root error')) : Action Settings).run terminal).1 =
          .error (.failure (.load root error)) ↔
        (Except.error error' : Except Settings.LoadError Settings) = .error error ∧
          ¬ error.IsReported) := by
    intro error' unreported
    constructor
    · rintro ⟨⟩
      exact ⟨rfl, unreported⟩
    · rintro ⟨⟨⟩, -⟩
      rfl
  have handled : ∀ {error' : Settings.LoadError} (message : String), error'.IsReported →
      (((refuse message : Action Settings).run terminal).1 =
          .error (.failure (.load root error)) ↔
        (Except.error error' : Except Settings.LoadError Settings) = .error error ∧
          ¬ error.IsReported) := by
    intro error' message reported
    refine iff_of_false (refuse_ne_load message terminal root error) ?_
    rintro ⟨⟨⟩, unreported⟩
    exact unreported reported
  rw [loadSettings, run_get_bind]
  cases Settings.load terminal.room terminal.tree root with
  | ok settings =>
    refine iff_of_false ?_ ?_
    · rintro ⟨⟩
    · rintro ⟨⟨⟩, -⟩
  | error error' =>
    cases error' with
    | unreadable error' =>
      cases error' with
      | notJson error' =>
        cases error' with
        | malformed => exact handled _ trivial
        | oversizedInteger => exact unhandled id
        | tooDeep => exact unhandled id
      | notObject => exact unhandled id
      | invalid => exact handled _ trivial
    | _ => exact unhandled id

namespace Settings

variable {room : Nat}

/-! ### Texts -/

theorem valid_of_read {content : String} {settings : Settings}
    (loaded : read room content = .ok settings) : settings.Valid := by
  unfold read at loaded
  split at loaded
  · cases loaded
  · exact valid_of_ofMembers (mapError_eq_ok.mp loaded)
  · cases loaded

/-- The outcome is one of which the program knows what to do with it: valid settings, or an error that
is reported. -/
def IsAnswered (outcome : Except LoadError Settings) : Prop :=
  (∃ settings, outcome = .ok settings ∧ settings.Valid) ∨
    ∃ error, outcome = .error error ∧ error.IsReported

/-- A text at which reading is not given up, and which is no other JSON than an object. -/
def IsDecided (room : Nat) (content : String) : Prop :=
  ¬ Json.GivesUp room content ∧
    ∀ value, Json.parse room content = .ok value → Json.firstVisible? content = some '{'

theorem isAnswered_read_iff (content : String) :
    IsAnswered ((read room content).mapError .unreadable) ↔ IsDecided room content := by
  unfold read
  cases parsed : Json.parse room content with
  | error error =>
    have limits := Json.givesUp_iff (Json.parse_eq_error.mp parsed)
    constructor
    · rintro (⟨settings, ⟨⟩, -⟩ | ⟨_, ⟨⟩, reported⟩)
      exact ⟨fun limit => limits.mp limit reported, fun _ read => nomatch parsed.symm.trans read⟩
    · rintro ⟨onward, -⟩
      exact .inr ⟨_, rfl, not_not.mp fun limit => onward (limits.mpr limit)⟩
  | ok value =>
    have onward := Json.not_givesUp_of_parse parsed
    have decided : IsDecided room content ↔ Json.IsObject value := by
      rw [Json.isObject_iff_of_parse parsed]
      refine ⟨fun both => both.2 value parsed, fun brace => ⟨onward, fun _ _ => brace⟩⟩
    rw [decided]
    cases value with
    | object members =>
      refine iff_of_true ?_ ⟨members, rfl⟩
      cases checked : ofMembers members with
      | ok settings =>
        exact .inl ⟨settings, by simp [checked, Except.mapError], valid_of_ofMembers checked⟩
      | error issues =>
        exact .inr ⟨.unreadable (.invalid issues), by simp [checked, Except.mapError], trivial⟩
    | _ =>
      refine iff_of_false ?_ (by simp [Json.IsObject])
      rintro (⟨settings, ⟨⟩, -⟩ | ⟨error, ⟨⟩, reported⟩)
      exact reported

/-! ### Bytes of files -/

/-- The content of a text file: its text with each line break as a line feed. -/
def contentOf (text : String) : String :=
  String.ofList (Text.unifyBreaks text.toList)

theorem ofBytes_toUTF8 (text : String) :
    ofBytes room text.toUTF8.toList = (read room (contentOf text)).mapError .unreadable := by
  rw [ofBytes, FileTree.strictText, Text.Utf8.decode_toUTF8]
  rfl

theorem isAnswered_ofBytes_iff (bytes : List UInt8) :
    IsAnswered (ofBytes room bytes) ↔
      ∃ text : String, bytes = text.toUTF8.toList ∧ IsDecided room (contentOf text) := by
  constructor
  · intro answered
    cases decoded : Text.Utf8.decode? bytes with
    | ok chars =>
      obtain rfl := Text.Utf8.decode?_eq_ok_iff.mp decoded
      rw [ofBytes_toUTF8, isAnswered_read_iff] at answered
      exact ⟨_, rfl, answered⟩
    | error error =>
      rw [ofBytes, FileTree.strictText, decoded] at answered
      rcases answered with ⟨settings, ⟨⟩, -⟩ | ⟨_, ⟨⟩, reported⟩
      exact reported.elim
  · rintro ⟨text, rfl, decided⟩
    rw [ofBytes_toUTF8, isAnswered_read_iff]
    exact decided

theorem valid_of_ofBytes {bytes : List UInt8} {settings : Settings}
    (loaded : ofBytes room bytes = .ok settings) : settings.Valid := by
  unfold ofBytes at loaded
  split at loaded
  · exact valid_of_read (mapError_eq_ok.mp loaded)
  · cases loaded

/-- A command that needs the settings of a project fails just if loading them is not answered. -/
theorem loadSettings_fails_iff (terminal : Terminal) (root : ProjectRoot)
    (valid : ∀ settings, load terminal.room terminal.tree root = .ok settings → settings.Valid) :
    (∃ error, ((loadSettings root).run terminal).1 = .error (.failure (.load root error))) ↔
      ¬ IsAnswered (load terminal.room terminal.tree root) := by
  simp only [loadSettings_unhandled_iff]
  cases outcome : load terminal.room terminal.tree root with
  | ok settings =>
    exact iff_of_false nofun (not_not.mpr (.inl ⟨settings, rfl, valid settings outcome⟩))
  | error error =>
    constructor
    · rintro ⟨_, ⟨⟩, unreported⟩ (⟨settings, ⟨⟩, -⟩ | ⟨_, ⟨⟩, reported⟩)
      exact unreported reported
    · intro unanswered
      exact ⟨error, rfl, fun reported => unanswered (.inr ⟨error, rfl, reported⟩)⟩

/-- **Which settings files are answered.** Whatever the bytes of the file, settings that are loaded
from it are valid. There are such settings, or an error that is reported, just if the bytes spell a text
at which reading JSON is not given up, and which is no other JSON than an object. So it is with every
text that opens a brace first and shows no limit. Whatever else a command is about, it fails if it
needs settings that are not answered. -/
theorem load_isAnswered_iff {tree : FileTree} {root : ProjectRoot} {bytes : List UInt8}
    (found : tree.find? (filePath root) = some (.file bytes)) :
    (∀ settings, load room tree root = .ok settings → settings.Valid) ∧
      (IsAnswered (load room tree root) ↔
        ∃ text : String, bytes = text.toUTF8.toList ∧ IsDecided room (contentOf text)) ∧
      (∀ text : String, bytes = text.toUTF8.toList →
        Json.firstVisible? (contentOf text) = some '{' →
        Json.IsModest room (contentOf text).toList → IsAnswered (load room tree root)) ∧
      ∀ terminal : Terminal, terminal.room = room → terminal.tree = tree →
        ((∃ error, ((loadSettings root).run terminal).1 = .error (.failure (.load root error))) ↔
          ¬ IsAnswered (load room tree root)) := by
  have valid : ∀ settings, load room tree root = .ok settings → settings.Valid := by
    rw [load_of_file found]
    exact fun settings => valid_of_ofBytes
  have answered : IsAnswered (load room tree root) ↔
      ∃ text : String, bytes = text.toUTF8.toList ∧ IsDecided room (contentOf text) := by
    rw [load_of_file found]
    exact isAnswered_ofBytes_iff bytes
  refine ⟨valid, answered, fun text same brace modest => ?_, ?_⟩
  · exact answered.mpr ⟨text, same, Json.not_givesUp_of_isModest modest, fun _ _ => brace⟩
  · rintro terminal rfl rfl
    exact loadSettings_fails_iff terminal root valid

/-- The file with the settings of the project in which paths begin. -/
theorem find?_filePath {tree : FileTree} (base : tree.base = []) {root : ProjectRoot}
    (own : root.place = []) {bytes : List UInt8}
    (directory : tree.node? [directoryName] = some .directory)
    (file : tree.node? [directoryName, fileName] = some (.file bytes)) :
    tree.find? (filePath root) = some (.file bytes) := by
  have short : ¬ FileTree.pathLimit < (filePath root).utf8ByteSize := by
    rw [filePath, own]
    decide
  have names : Path.names (filePath root) = [directoryName, fileName] := by
    rw [filePath, own]
    decide
  have start : FileTree.startOf [] (filePath root) = [] := by
    rw [filePath, own]
    decide
  have outer : tree.enter [] directoryName = [directoryName] := if_neg (by simp)
  have inner : tree.enter [directoryName] fileName = [directoryName, fileName] :=
    if_neg fun same => absurd same.1 (by decide)
  have isEnd : FileTree.IsEnd (some (.file bytes)) := ⟨by simp, by simp⟩
  have way : tree.resolve (filePath root) = .place [directoryName, fileName] := by
    rw [FileTree.resolve, if_neg short, base, names, start,
      FileTree.follow_into isEntry_directoryName (outer.symm ▸ directory), outer,
      FileTree.follow_last isEntry_fileName isEnd (inner.symm ▸ file), inner]
  rw [FileTree.find?, FileTree.resolve?, way]
  exact file

/-- A project whose settings file has some bytes. -/
def projectWith (bytes : List UInt8) : FileTree where
  nodes := .ofList [(directoryName, .directory), (directoryName ++ "/" ++ fileName, .file bytes)]

/-- The project of the directory in which paths begin. -/
def ownRoot : ProjectRoot := { name := "a", path := "/a" }

theorem find?_projectWith (bytes : List UInt8) :
    (projectWith bytes).find? (filePath ownRoot) = some (.file bytes) :=
  find?_filePath rfl rfl rfl rfl

theorem load_isAnswered_emptyObject :
    IsAnswered (load Json.usualRoom (projectWith "{}".toUTF8.toList) ownRoot) := by
  obtain ⟨-, -, answered, -⟩ := load_isAnswered_iff (find?_projectWith "{}".toUTF8.toList)
  refine answered "{}" rfl (by decide +kernel) ⟨fun digits _ within => ?_, by decide +kernel⟩
  exact within.length_le.trans (by decide +kernel)

/-- A byte that begins no character is not answered. -/
theorem not_answered_strayByte : ¬ IsAnswered (load Json.usualRoom (projectWith [0xFF]) ownRoot) := by
  rw [load_of_file (find?_projectWith [0xFF])]
  rintro (⟨settings, ⟨⟩, -⟩ | ⟨error, ⟨⟩, reported⟩)
  exact reported

end Settings

end CodeBrief
