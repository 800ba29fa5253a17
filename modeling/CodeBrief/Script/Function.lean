/-
**Functions, classes and calls in script text.**

Three passes find functions: declarations with their parameters and body, arrow functions bound to a
name, and bare methods, which are names before a parameter list and a brace. The passes overlap, and
none of them parses the script.

* `functions` — the finds of the three passes, one pass after another.
* `classes` — the class declarations with their methods and properties.
* `calls` — the distinct names before an opening parenthesis.
-/

import CodeBrief.Pattern.Scan
import CodeBrief.Script.Block

namespace CodeBrief.Script

open CodeBrief.Pattern

/-- The words that look like the name of a method or of a call and are none. -/
def controlWords : List String := ["if", "for", "while", "switch", "catch", "function"]

/-! ### Functions -/

/-- A function as a pass finds it. -/
structure FunctionFind where
  /-- The name. -/
  name : String
  /-- The parameters, if the pass reads them. -/
  params : List String
  /-- The body with its braces, if the pass reads it. -/
  body : String
  deriving DecidableEq, Repr

/-- The parameters in the text between the parentheses. -/
def paramsOf (inner : List Char) : List String :=
  (((Text.pieces (· == ',') inner).map Text.strip).filter fun param => !param.isEmpty).map
    String.ofList

/-- The text from the brace before `after` on. -/
def fromBrace (after : List Char) : List Char :=
  '{' :: after

/-- A declaration up to its opening brace: the name and the text between the parentheses. -/
def declaration : Reader (String × List Char) := do
  literal "function"
  someBlanks
  let name ← word
  blanks
  let inner ← enclosed '(' ')'
  blanks
  literal "\x7b"
  return (name, inner)

/-- The functions that are declared. -/
def declared (text : List Char) : List FunctionFind :=
  (allMatches (fun _ => declaration) text).map fun hit =>
    { name := hit.value.1
      params := paramsOf hit.value.2
      body := String.ofList (blockAt (fromBrace hit.after)) }

/-- The parameters of an arrow function and its arrow. -/
def arrow : Reader Unit := do
  (do let _ ← enclosed '(' ')') <|> (do let _ ← word)
  blanks
  literal "=>"

/-- An arrow function bound to a name. -/
def arrowBinding : Reader String := do
  let _ ← oneOf ["const", "let", "var"]
  someBlanks
  let name ← word
  blanks
  literal "="
  blanks
  (do literal "async"; someBlanks; arrow) <|> arrow
  return name

/-- A name before a parameter list and a brace. -/
def bareMethod : Reader String := do
  let name ← word
  blanks
  let _ ← enclosed '(' ')'
  blanks
  literal "\x7b"
  return name

/-- How far back the word `function` is looked for before a name. -/
def lookBack : Nat := 64

/-- Whether the text `before`, read backwards, ends with the word `function` and blanks, within the
reach of `lookBack`. -/
def followsFunctionWord (before : List Char) : Bool :=
  let gap := (before.takeWhile Text.isBlank).length
  match dropPrefix? "function".toList.reverse (before.drop gap) with
  | some earlier => gap + "function".length ≤ lookBack && atBoundary earlier
  | none => false

/-- The names of the bare methods of a text, in order. -/
def methodNames (text : List Char) : List String :=
  ((allMatches (atWordStart bareMethod) text).filter fun hit =>
    !controlWords.contains hit.value && !followsFunctionWord hit.before).map Match.value

/-- A find that has a name only. -/
def FunctionFind.named (name : String) : FunctionFind := ⟨name, [], ""⟩

/-- The functions that the three passes find, one pass after another. -/
def functions (text : List Char) : List FunctionFind :=
  declared text ++ (found arrowBinding text).map .named ++ (methodNames text).map .named

/-! ### Classes -/

/-- A class as it is found. -/
structure ClassFind where
  /-- The name. -/
  name : String
  /-- The class it extends, if it names one. -/
  base : Option String
  /-- The names of its bare methods. -/
  methods : List String
  /-- The distinct names that are assigned on `this`. -/
  properties : List String
  /-- The body with its braces. -/
  body : String
  deriving DecidableEq, Repr

/-- The name after `extends`. -/
def extendsClause : Reader String := do
  someBlanks
  literal "extends"
  someBlanks
  word

/-- The part of a class declaration from its name to its opening brace. -/
def classHead : Reader (Option String) :=
  (do
    let base ← extendsClause
    blanks
    literal "\x7b"
    return some base) <|>
  (do
    blanks
    literal "\x7b"
    return none)

/-- A class declaration up to its opening brace. -/
def classDeclaration : Reader (String × Option String) := do
  literal "class"
  someBlanks
  let name ← word
  let base ← classHead
  return (name, base)

/-- An assignment to a property of `this`, up to its equals sign. -/
def assignment : Reader String := do
  literal "this."
  let name ← word
  blanks
  literal "="
  unlessNext (· == '=')
  return name

/-- The class declarations of a text. -/
def classes (text : List Char) : List ClassFind :=
  (allMatches (fun _ => classDeclaration) text).map fun hit =>
    let body := blockAt (fromBrace hit.after)
    { name := hit.value.1
      base := hit.value.2
      methods := methodNames body
      properties := (found assignment body).eraseDups
      body := String.ofList body }

/-! ### Calls -/

/-- A name before an opening parenthesis. -/
def call : Reader String := do
  let name ← word
  blanks
  literal "("
  return name

/-- The distinct names that are called in a text, in the order of their first calls. -/
def calls (text : List Char) : List String :=
  ((foundAtWords call text).filter fun name => !controlWords.contains name).eraseDups

end CodeBrief.Script
