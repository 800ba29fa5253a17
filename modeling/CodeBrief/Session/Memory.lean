/-
**Session memory.**

What a session remembers: the last conversations, the decisions that were taken, what the developer
prefers, the files touched lately, and the current focus.

* `Memory.record` — remembers an exchange.
* `Memory.touch` — moves a file to the front of the files touched lately.
* `Memory.recollect` — what is remembered about a query.
* `areRelated` — whether two texts are about the same matter.
-/

import CodeBrief.Json.Value
import CodeBrief.Session.Moment
import CodeBrief.Settings.Field
import CodeBrief.Severity
import CodeBrief.Text.Lower
import CodeBrief.Text.Occurrence

namespace CodeBrief

/-- A query, the response to it, and what came of it. -/
structure Exchange where
  /-- The query. -/
  query : String
  /-- The response. -/
  response : String := ""
  /-- What went with the query. -/
  context : Json.Value := .null
  /-- The files that were changed. -/
  touched : List String := []
  deriving Repr

open Settings (Checked textField textsField) in
/-- The exchange with some members; all but the query have defaults. -/
def Exchange.ofMembers (members : List (String × Json.Value)) : Checked Exchange :=
  .ok Exchange.mk |>
    Checked.plus (Settings.required members "query" textField) |>
    Checked.plus (Settings.optional members "response" textField "") |>
    Checked.plus (Settings.optional members "context" .ok .null) |>
    Checked.plus (Settings.optional members "files_modified" textsField [])

/-- A conversation that is remembered. -/
structure Conversation where
  /-- The query. -/
  query : String
  /-- The response. -/
  response : String
  /-- When it was remembered. -/
  moment : Moment
  /-- What went with the query. -/
  context : Json.Value
  deriving Repr

/-- A conversation as a JSON object. -/
def Conversation.toJson (entry : Conversation) : Json.Value :=
  .object [("query", .string entry.query), ("response", .string entry.response),
    ("timestamp", .string entry.moment.write), ("context", entry.context)]

/-- A decision that is remembered. -/
structure Decision where
  /-- The query that led to it. -/
  description : String
  /-- The response that took it. -/
  decision : String
  /-- When it was remembered. -/
  moment : Moment
  /-- How much it affects. -/
  impact : Severity
  deriving DecidableEq, Repr

/-- A decision as a JSON object. -/
def Decision.toJson (entry : Decision) : Json.Value :=
  .object [("description", .string entry.description), ("decision", .string entry.decision),
    ("timestamp", .string entry.moment.write), ("impact", .string entry.impact.name)]

/-- How much is remembered. -/
structure MemoryLimits where
  /-- The greatest number of conversations. -/
  conversations : Nat := 100
  /-- The greatest number of files touched lately. -/
  recentFiles : Nat := 20
  deriving DecidableEq, Repr, Inhabited

/-- What a session remembers. -/
structure Memory where
  /-- How much is remembered. -/
  limits : MemoryLimits := {}
  /-- The conversations, the oldest first. -/
  conversations : List Conversation := []
  /-- The decisions, the oldest first. -/
  decisions : List Decision := []
  /-- What the developer prefers. -/
  preferences : Ledger Bool := ∅
  /-- The files touched lately, the last one first. -/
  recentFiles : List String := []
  /-- The area that the session is about, if one is set. -/
  focus : Option String := none
  deriving Inhabited

/-! ### Judging an exchange -/

/-- The words that show a decision. -/
def decisionWords : List String :=
  ["architecture", "design", "pattern", "structure", "refactor", "migrate"]

/-- Whether an exchange takes a decision: a word that shows one occurs in the query or the response,
in lower case. -/
def Exchange.isDecision (exchange : Exchange) : Bool :=
  let query := Text.lower exchange.query.toList
  let response := Text.lower exchange.response.toList
  decisionWords.any fun word =>
    Text.occursIn word.toList query || Text.occursIn word.toList response

/-- How much an exchange affects, by the number of files that were changed. -/
def Exchange.impact (exchange : Exchange) : Severity :=
  if 5 < exchange.touched.length then .high
  else if 2 < exchange.touched.length then .medium
  else .low

/-- The words of a text in lower case. -/
def loweredWords (text : String) : List (List Char) :=
  Text.words (Text.lower text.toList)

/-- Whether more than two words of the first text that are longer than three characters are words of
the second one too, in lower case; a word counts as often as it stands in the first text. -/
def areRelated (left right : String) : Bool :=
  let others := loweredWords right
  2 < (loweredWords left).countP fun word => others.contains word && 3 < word.length

/-! ### Remembering -/

namespace Memory

/-- An empty memory with some limits. -/
def withLimits (limits : MemoryLimits) : Memory := { limits }

/-- Some recent files after one more has been touched. -/
def pushRecent (limit : Nat) (recent : List String) (path : String) : List String :=
  (path :: recent.erase path).take limit

/-- Moves a file to the front of the files touched lately. -/
def touch (memory : Memory) (path : String) : Memory :=
  { memory with recentFiles := pushRecent memory.limits.recentFiles memory.recentFiles path }

/-- Sets or clears the focus. -/
def setFocus (memory : Memory) (focus : Option String) : Memory :=
  { memory with focus }

/-- The last `limit` elements of a list. -/
def lastOf {α : Type} (limit : Nat) (xs : List α) : List α :=
  xs.drop (xs.length - limit)

/-- Notes a preference if its sign occurs in a response. -/
def notePreference (response sign name : String) (preferences : Ledger Bool) : Ledger Bool :=
  if Text.contains response sign then preferences.put name true else preferences

/-- Remembers an exchange at some moment. -/
def record (memory : Memory) (now : Moment) (exchange : Exchange) : Memory :=
  { memory with
    conversations := lastOf memory.limits.conversations
      (memory.conversations ++ [⟨exchange.query, exchange.response, now, exchange.context⟩])
    recentFiles :=
      exchange.touched.foldl (pushRecent memory.limits.recentFiles) memory.recentFiles
    decisions := memory.decisions ++
      if exchange.isDecision then [⟨exchange.query, exchange.response, now, exchange.impact⟩]
      else []
    preferences :=
      notePreference exchange.response "async/await" "prefer_async"
        (notePreference exchange.response "const" "prefer_const" memory.preferences) }

/-! ### Recalling -/

/-- What is remembered about a query. -/
structure Recollection where
  /-- The related ones among the last conversations, the oldest first. -/
  conversations : List Conversation := []
  /-- The first related decisions. -/
  decisions : List Decision := []
  /-- The last distinct related queries, the last one first. -/
  queries : List String := []
  deriving Repr

/-- The queries that have been found to be related to `query`, with one more if it is related and
has not been found before. -/
def noteSimilar (query : String) (found : List String) (earlier : String) : List String :=
  if !found.contains earlier && areRelated earlier query then found ++ [earlier] else found

/-- The queries related to `query` that have been found, and those that are found when further ones
are looked at in order, until there are `limit` of them. -/
def similarFrom (limit : Nat) (query : String) : (found further : List String) → List String
  | found, [] => found
  | found, earlier :: further =>
    let found := noteSimilar query found earlier
    if found.length == limit then found else similarFrom limit query found further

/-- What is remembered about `query`: of the last five conversations the related ones, the first
three related decisions, and the last three distinct related queries. -/
def recollect (memory : Memory) (query : String) : Recollection where
  conversations := (lastOf 5 memory.conversations).filter fun entry => areRelated entry.query query
  decisions := (memory.decisions.filter fun entry => areRelated entry.description query).take 3
  queries := similarFrom 3 query [] (memory.conversations.reverse.map Conversation.query)

/-- The largest depth of what goes with a query and can still be written. -/
def contextDepthLimit : Nat := 255

/-- Whether what went with every conversation can be written. -/
def Recollection.isWritable (recollection : Recollection) : Bool :=
  recollection.conversations.all fun entry => entry.context.depth ≤ contextDepthLimit

/-- What is remembered about a query as a JSON object. -/
def Recollection.toJson (recollection : Recollection) : Json.Value :=
  .object [
    ("recent_conversations", .array (recollection.conversations.map Conversation.toJson)),
    ("relevant_decisions", .array (recollection.decisions.map Decision.toJson)),
    ("similar_queries", .ofTexts recollection.queries)]

end Memory

end CodeBrief
