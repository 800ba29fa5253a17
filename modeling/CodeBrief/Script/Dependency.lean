/-
**Imports, exports and routes in script text.**

* `imports` — the targets of the static imports, then those of the `require` calls.
* `exports` — the exported names.
* `routes` — the verbs and paths registered on an application, then those on a router.
-/

import CodeBrief.Pattern.Scan

namespace CodeBrief.Script

open CodeBrief.Pattern

/-- What a static import binds: names in braces, one name, or everything under one name. -/
def importedNames : Reader Unit :=
  (do let _ ← enclosed '{' '}') <|>
  (do let _ ← word) <|>
  (do literal "*"; someBlanks; literal "as"; someBlanks; let _ ← word)

/-- A static import up to the quote that closes its target. -/
def staticImport : Reader String := do
  literal "import"
  someBlanks
  importedNames
  someBlanks
  literal "from"
  someBlanks
  quotedText

/-- A call of `require` with a quoted target. -/
def requireCall : Reader String := do
  literal "require("
  let target ← quotedText
  literal ")"
  return target

/-- The targets that a text imports: static imports first, then `require` calls. -/
def imports (text : List Char) : List String :=
  found staticImport text ++ found requireCall text

/-- The kind and the name of what is exported. -/
def exportedName : Reader String := do
  let _ ← oneOf ["const", "let", "var", "function", "class"]
  someBlanks
  word

/-- An exported declaration up to its name. -/
def exportDeclaration : Reader String := do
  literal "export"
  someBlanks
  (do literal "default"; someBlanks; exportedName) <|> exportedName

/-- The names that a text exports. -/
def exports (text : List Char) : List String :=
  found exportDeclaration text

/-- A route of a web application. -/
structure Route where
  /-- The verb in capitals. -/
  method : String
  /-- The path it answers. -/
  path : String
  /-- The file that registers it. -/
  file : String
  deriving DecidableEq, Repr

/-- The verbs of routes. -/
def routeVerbs : List String := ["get", "post", "put", "delete", "patch"]

/-- The registration of a route on `owner`. -/
def routeOn (owner : String) : Reader (String × String) := do
  literal owner
  literal "."
  let verb ← oneOf routeVerbs
  blanks
  literal "("
  let path ← quotedText
  return (verb, path)

/-- The routes that the text of `file` registers. -/
def routes (text : List Char) (file : String) : List Route :=
  (found (routeOn "app") text ++ found (routeOn "router") text).map fun (verb, path) =>
    ⟨verb.toUpper, path, file⟩

end CodeBrief.Script
