/-
**Reports on records that are not valid.**

A report counts the issues of a record and describes each one: the way to the value, what is wrong,
the value with its type, and where the kind of fault is explained. A long value is shown by its
beginning and its end.

* `Fault.kind`, `typeName` — the names of faults and of types of values.
* `shortened` — the beginning and the end of a long text.
* `report` — the report on the issues of a record.
-/

import CodeBrief.Settings.Field

namespace CodeBrief.Settings

open Json (Value)

/-! ### Names -/

/-- The name of the kind of a fault. -/
def Fault.kind : Fault → String
  | .missing => "missing"
  | .notText => "string_type"
  | .notWhole => "int_type"
  | .unreadableWhole => "int_parsing"
  | .oversizedWhole => "int_parsing_size"
  | .fractional => "int_from_float"
  | .notFinite => "finite_number"
  | .belowLeast _ => "greater_than_equal"
  | .aboveGreatest _ => "less_than_equal"
  | .notBelow _ => "less_than"
  | .notNumber => "float_type"
  | .unreadableNumber => "float_parsing"
  | .notTruth => "bool_type"
  | .unreadableTruth => "bool_parsing"
  | .notMoment => "datetime_type"
  | .unreadableMoment _ => "datetime_parsing"
  | .unreadableDay _ => "datetime_from_date_parsing"
  | .notList => "list_type"
  | .notLedger => "dict_type"
  | .notSection _ => "model_type"
  | .notAmong _ => "literal_error"
  | .notNamed _ => "enum"

/-- The name of the type of a value. -/
def typeName : Value → String
  | .null => "NoneType"
  | .bool _ => "bool"
  | .int _ => "int"
  | .float _ => "float"
  | .string _ => "str"
  | .array _ => "list"
  | .object _ => "dict"

/-! ### Long texts -/

/-- The characters at the beginning of a text that take at most `size` bytes together. -/
def takeBytes : (size : Nat) → List Char → List Char
  | _, [] => []
  | size, c :: rest => if c.utf8Size ≤ size then c :: takeBytes (size - c.utf8Size) rest else []

/-- The number of bytes up to which a text is shown in full. -/
def shownBytes : Nat := 50

/-- A text, or its beginning and its end if it is long. -/
def shortened (text : List Char) : List Char :=
  if (String.ofList text).utf8ByteSize ≤ shownBytes then text
  else
    let half := shownBytes / 2
    takeBytes half text ++ "...".toList ++ (takeBytes (half - 1) text.reverse).reverse

/-! ### Issues -/

/-- The text of one step on the way to a value. -/
def Step.text : Step → String
  | .member name => name
  | .item number => String.ofList (Text.spell number)

/-- The address of a page on the web. -/
structure PageAddress where
  /-- How the page is asked for. -/
  scheme : String
  /-- Who has the page. -/
  host : String
  /-- The names that lead to the page. -/
  names : List String

/-- The text of an address. -/
def PageAddress.text (page : PageAddress) : String :=
  page.scheme ++ "://" ++ "/".intercalate (page.host :: page.names)

/-- The page that explains a kind of fault. -/
def Fault.page (fault : Fault) : PageAddress :=
  ⟨"https", "errors.pydantic.dev", ["2.14", "v", fault.kind]⟩

/-- The text of an issue. -/
def Issue.text (issue : Issue) : String :=
  ".".intercalate (issue.place.map Step.text) ++ "\n  " ++ issue.fault.message ++
    " [type=" ++ issue.fault.kind ++
    ", input_value=" ++ String.ofList (shortened issue.value.displayInner) ++
    ", input_type=" ++ typeName issue.value ++ "]\n" ++
    "    For further information visit " ++ issue.fault.page.text

/-- The report on the issues of a record of some kind. -/
def report (kind : String) (issues : List Issue) : String :=
  String.ofList (Text.spell issues.length) ++ " validation error" ++
    (if issues.length = 1 then "" else "s") ++ " for " ++ kind ++
    String.join (issues.map fun issue => "\n" ++ issue.text)

end CodeBrief.Settings
