/-
**Tokens.**

The size of a text for a language model is estimated as one token for every four characters, rounded
up. A record is measured by its compact JSON text.

* `tokensOf` — the estimate for a text.
* `recordTokens` — the estimate for a record.
-/

import CodeBrief.Json.Writer

namespace CodeBrief

/-- The number of characters that make a token. -/
def charsPerToken : Nat := 4

/-- The number of tokens that `length` characters make, rounded up. -/
def tokensOfLength (length : Nat) : Nat :=
  (length + (charsPerToken - 1)) / charsPerToken

/-- The estimated number of tokens of a text. -/
def tokensOf (text : List Char) : Nat :=
  tokensOfLength text.length

/-- The estimated number of tokens of a record. -/
def recordTokens (record : Json.Value) : Nat :=
  tokensOf (Json.Style.compact.chars record)

end CodeBrief
