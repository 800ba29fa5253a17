/-
**Project structure.**

How a repository is laid out, read off the paths of its files: modules, entry points, routes and
configuration files.

* `moduleKind`, `configKind` — the first rule that a path fits.
* `Structure.read` — the layout. Of several modules with one name the last one is kept.
-/

import CodeBrief.Ledger
import CodeBrief.Path
import CodeBrief.Script.Dependency

namespace CodeBrief

/-- A module. -/
structure ModuleInfo where
  /-- The path of the module. -/
  path : String
  /-- Its kind. -/
  kind : String := "module"
  /-- The modules it depends on. -/
  dependencies : List String := []
  deriving DecidableEq, Repr

/-- A configuration file. -/
structure ConfigFile where
  /-- The path of the file. -/
  path : String
  /-- Its kind. -/
  kind : String := "config"
  deriving DecidableEq, Repr

/-- How a repository is laid out. -/
structure Structure where
  /-- The paths of all files. -/
  tree : List String := []
  /-- The modules under their names. -/
  modules : Ledger ModuleInfo := ∅
  /-- The paths of the entry points. -/
  entryPoints : List String := []
  /-- The routes. -/
  routes : List Script.Route := []
  /-- The configuration files under their paths. -/
  configs : Ledger ConfigFile := ∅
  deriving Inhabited

namespace Structure

/-- Whether one of `marks` occurs in a path. -/
def mentionsAny (marks : List String) (path : String) : Bool :=
  marks.any (Text.contains path)

/-- Whether a path lies among the modules. -/
def isModule : String → Bool :=
  mentionsAny ["components/", "modules/", "features/"]

/-- Whether a path is an entry point. -/
def isEntryPoint : String → Bool :=
  mentionsAny ["index.", "main.", "app.", "server."]

/-- Whether routes are sought in a file. -/
def isRouteSource : String → Bool :=
  mentionsAny ["routes/", "api/", "pages/"]

/-- Whether a path is a configuration file. -/
def isConfig (path : String) : Bool :=
  Text.contains path "config" || Path.endsWith path ".config.js" || Path.endsWith path ".json"

/-- The label of the first rule whose mark occurs in a path. -/
def firstLabel (rules : List (String × String)) (otherwise path : String) : String :=
  match rules.find? fun rule => Text.contains path rule.1 with
  | some rule => rule.2
  | none => otherwise

/-- The kind of a module. -/
def moduleKind : String → String :=
  firstLabel [("component", "component"), ("service", "service"), ("controller", "controller"),
    ("model", "model"), ("util", "utility")] "module"

/-- The kind of a configuration file. -/
def configKind : String → String :=
  firstLabel [("webpack", "webpack"), ("babel", "babel"), ("eslint", "eslint"),
    ("tsconfig", "typescript"), ("package.json", "npm")] "config"

/-- The layout of the files at `paths`, some of whose texts are known. -/
def read (paths : List String) (files : Ledger String) : Structure where
  tree := paths
  modules := .ofList <| (paths.filter isModule).map fun path =>
    (Path.stem path, { path, kind := moduleKind path })
  entryPoints := paths.filter isEntryPoint
  routes := (paths.filter isRouteSource).flatMap fun path =>
    match files.get? path with
    | some content => Script.routes content.toList path
    | none => []
  configs := .ofList <| (paths.filter isConfig).map fun path =>
    (path, { path, kind := configKind path })

end Structure

end CodeBrief
