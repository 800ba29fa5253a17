/-
**Project metadata.**

What the manifest of a project and the list of its files say about it. Texts from the manifest are
kept as they are read, with what halves of surrogate pairs they may hold.

* `Manifest.parse` — the members of a manifest, or why it is none.
* `languageOf` — the most frequent extension of the files; of equally frequent ones the first.
* `Metadata.read` — the metadata; a manifest that cannot be read leaves the defaults.
-/

import CodeBrief.Json.Reader
import CodeBrief.Path

namespace CodeBrief

/-- What is known about a project as a whole. -/
structure Metadata where
  /-- The name. -/
  name : Option CodeText := none
  /-- The most frequent file extension. -/
  language : Option String := none
  /-- The framework that the project is built on. -/
  framework : Option String := none
  /-- The packages that the project depends on. -/
  dependencies : List CodeText := []
  /-- The version. -/
  version : Option CodeText := none
  /-- The description. -/
  description : Option CodeText := none
  deriving DecidableEq, Repr, Inhabited

/-! ### Frameworks and languages -/

/-- The packages that show a framework, in the order in which they are tried. -/
def frameworkRules : List (String × String) :=
  [("react", "React"), ("vue", "Vue"), ("angular", "Angular"), ("express", "Express"),
    ("next", "Next.js")]

/-- The framework that the dependencies of a manifest show: that of the first rule whose package is
listed with a value that stands for something. -/
def frameworkOf (dependencies : List (CodeText × Json.Document)) : Option String :=
  (frameworkRules.find? fun (package, _) =>
    match dependencies.lookup (.ofString package) with
    | some value => !value.isEmptyLike
    | none => false).map Prod.snd

/-- The most frequent extension of some paths; of equally frequent ones the first seen. -/
def languageOf (paths : List String) : Option String :=
  let extensions := paths.filterMap Path.extension?
  extensions.eraseDups.foldl (fun best extension =>
    match best with
    | none => some extension
    | some leader =>
      if extensions.count leader < extensions.count extension then some extension else best) none

/-! ### Manifests -/

namespace Manifest

/-- The name of the manifest file. -/
def fileName : String := "package.json"

/-- Why a text is no manifest. -/
inductive Problem where
  /-- It is not JSON. -/
  | notJson (error : Json.ReadError)
  /-- It is no object. -/
  | notObject
  /-- Its dependencies are no object. -/
  | dependenciesNotObject
  deriving DecidableEq, Repr

/-- The wording of a problem. -/
def Problem.reason : Problem → String
  | .notJson error => error.message
  | .notObject => "top-level value is not an object"
  | .dependenciesNotObject => "'dependencies' is not an object"

/-- Whether a problem lies in the text. It does not if a number is too large or values are nested
too deep to be read; reading anything from the text is given up then. -/
def Problem.isRecoverable : Problem → Bool
  | .notJson (.oversizedInteger _) => false
  | .notJson (.tooDeep _) => false
  | _ => true

/-- The wording of a problem with the manifest at `path`. -/
def Problem.message (path : String) (problem : Problem) : String :=
  if problem.isRecoverable then s!"Could not parse manifest '{path}': {problem.reason}"
  else problem.reason

/-- The dependencies among the members of a manifest, unless they are no object. -/
def dependencies? (members : List (CodeText × Json.Document)) :
    Option (List (CodeText × Json.Document)) :=
  match members.lookup (.ofString "dependencies") with
  | none => some []
  | some value =>
    if value.isEmptyLike then some []
    else match value with
      | .object packages => some packages
      | _ => none

/-- The members of the manifest that `text` spells, read with `room` for values within each
other. -/
def parse (room : Nat) (text : String) : Except Problem (List (CodeText × Json.Document)) :=
  match Json.readDocument room text with
  | .error error => .error (.notJson error)
  | .ok (.object members) =>
    if (dependencies? members).isSome then .ok members else .error .dependenciesNotObject
  | .ok _ => .error .notObject

/-- The text of a member, unless it is missing or null. -/
def text? (members : List (CodeText × Json.Document)) (name : String) : Option CodeText :=
  match members.lookup (.ofString name) with
  | none => none
  | some .null => none
  | some value => some value.display

end Manifest

namespace Metadata

/-- What the members of a manifest say. -/
def ofManifest (members : List (CodeText × Json.Document)) : Metadata :=
  let packages := (Manifest.dependencies? members).getD []
  { name := Manifest.text? members "name"
    framework := frameworkOf packages
    dependencies := packages.map Prod.fst
    version := Manifest.text? members "version"
    description := Manifest.text? members "description" }

/-- What a manifest, if there is one, says; a problem in its text leaves the defaults. -/
def ofManifestText? (room : Nat) (manifest : Option String) : Except Manifest.Problem Metadata :=
  match manifest with
  | none => .ok {}
  | some text =>
    match Manifest.parse room text with
    | .ok members => .ok (ofManifest members)
    | .error problem => if problem.isRecoverable then .ok {} else .error problem

/-- What the paths of the files and the manifest, if there is one, say; the manifest is read with
`room` for values within each other. -/
def read (room : Nat) (paths : List String) (manifest : Option String) :
    Except Manifest.Problem Metadata :=
  (ofManifestText? room manifest).map fun metadata => { metadata with language := languageOf paths }

end Metadata

end CodeBrief
