/-
**The content index.**

What is known about the contents of a set of files: the functions and classes, each under a key made
of its path and its name, and for each file its comments and test cases.

* `FunctionRecord`, `ClassRecord` — what is kept of a function and of a class.
* `Index.build` — the index of a ledger of texts. Of several finds with one key the last one is
  kept, in the place of the first one.
-/

import CodeBrief.Path
import CodeBrief.Script.Comment
import CodeBrief.Script.Complexity
import CodeBrief.Script.Function
import CodeBrief.Token

namespace CodeBrief

/-- The key of what is called `name` in the file `path`. -/
def recordKey (path name : String) : String :=
  path ++ ":" ++ name

/-- A function of a file. -/
structure FunctionRecord where
  /-- The name. -/
  name : String
  /-- The path of the file. -/
  path : String
  /-- The parameters. -/
  params : List String := []
  /-- The body with its braces, or what stands for it. -/
  body : String := ""
  /-- The complexity of the body. -/
  complexity : Int := 1
  /-- The names called in the body. -/
  calls : List String := []
  /-- Whether the body has been replaced by something shorter. -/
  summarized : Bool := false
  deriving DecidableEq, Repr

namespace FunctionRecord

/-- The key of a function. -/
def key (record : FunctionRecord) : String :=
  recordKey record.path record.name

/-- A function as a JSON object. -/
def toJson (record : FunctionRecord) : Json.Value :=
  .object [("name", .string record.name), ("path", .string record.path),
    ("params", .ofTexts record.params), ("body", .string record.body),
    ("complexity", .int record.complexity), ("calls", .ofTexts record.calls),
    ("summarized", .bool record.summarized)]

/-- The record of a find in the file `path`. -/
def ofFind (path : String) (find : Script.FunctionFind) : FunctionRecord :=
  { name := find.name
    path
    params := find.params
    body := find.body
    complexity := Script.complexity find.body
    calls := Script.calls find.body.toList }

end FunctionRecord

/-- A class of a file. -/
structure ClassRecord where
  /-- The name. -/
  name : String
  /-- The path of the file. -/
  path : String
  /-- The names of the methods. -/
  methods : List String := []
  /-- The names of the properties. -/
  properties : List String := []
  /-- The class it extends, if it names one. -/
  base : Option String := none
  /-- The body with its braces. -/
  body : String := ""
  /-- What stands for the body once it is dropped. -/
  summary : Option String := none
  deriving DecidableEq, Repr

namespace ClassRecord

/-- The key of a class. -/
def key (record : ClassRecord) : String :=
  recordKey record.path record.name

/-- A class as a JSON object. -/
def toJson (record : ClassRecord) : Json.Value :=
  .object [("name", .string record.name), ("path", .string record.path),
    ("methods", .ofTexts record.methods), ("properties", .ofTexts record.properties),
    ("extends", .ofText? record.base), ("body", .string record.body),
    ("summary", .ofText? record.summary)]

/-- The record of a find in the file `path`. -/
def ofFind (path : String) (find : Script.ClassFind) : ClassRecord :=
  { name := find.name
    path
    methods := find.methods
    properties := find.properties
    base := find.base
    body := find.body }

end ClassRecord

/-- What is known about the contents of some files. -/
structure Index where
  /-- The texts of the files. -/
  files : Ledger String := ∅
  /-- The functions under their keys. -/
  functions : Ledger FunctionRecord := ∅
  /-- The classes under their keys. -/
  classes : Ledger ClassRecord := ∅
  /-- The comments of the files that have some. -/
  comments : Ledger (List Script.Comment) := ∅
  /-- The test cases of the files that are tests. -/
  tests : Ledger (List Script.TestCase) := ∅
  deriving Inhabited

namespace Index

/-- The functions of a file, in the order in which they are found. -/
def functionsOf (path content : String) : List FunctionRecord :=
  (Script.functions content.toList).map (FunctionRecord.ofFind path)

/-- The classes of a file, in the order in which they are found. -/
def classesOf (path content : String) : List ClassRecord :=
  (Script.classes content.toList).map (ClassRecord.ofFind path)

/-- The index of a set of files. -/
def build (files : Ledger String) : Index where
  files := files
  functions := .ofList <| files.entries.flatMap fun (path, content) =>
    (functionsOf path content).map fun record => (record.key, record)
  classes := .ofList <| files.entries.flatMap fun (path, content) =>
    (classesOf path content).map fun record => (record.key, record)
  comments := (files.mapValues fun _ content => Script.comments content.toList).filter
    fun _ comments => !comments.isEmpty
  tests := (files.filter fun path _ => Path.isTest path).mapValues
    fun _ content => Script.testCases content.toList

end Index

end CodeBrief
