/-
**Expressions.**

An expression is read from its tokens, from the left. Where the tokens go wrong in a way that has a
likely cause, the cause is named.

* `Node` — an expression, as far as it matters which values it can have.
* `Node.ofTokens` — the expression that some tokens make, or what is wrong with them.
-/

import CodeBrief.Expression.Token

namespace CodeBrief.Expression

/-! ### Nodes -/

/-- An expression, as far as it matters which values it can have. -/
inductive Node where
  /-- A number, which may be imaginary. -/
  | number (imaginary : Bool)
  /-- A text. -/
  | text
  /-- A text with places to fill in. -/
  | filledText
  /-- A value with a name of its own. -/
  | constant (name : String)
  /-- A name. -/
  | name (spelling : String)
  /-- Values between round brackets. -/
  | tuple (items : List Node)
  /-- Values between braces. -/
  | set (items : List Node)
  /-- Keys and values between braces; what is spread out has no key. -/
  | dictionary (entries : List (Option Node × Node))
  /-- A number with a sign. -/
  | signed (operand : Node)
  /-- A sum or difference. -/
  | sum (left right : Node)
  /-- A call. -/
  | call (function : Node) (arguments : List Node)
  /-- A member of a value. -/
  | member
  /-- Any other operation on values. -/
  | operation
  /-- A comparison, a condition, or what truth values are combined by. -/
  | condition
  /-- An expression that a star spreads out. -/
  | starred
  deriving Repr

/-- What a node that is set to a value is called, unless it does not matter. -/
def Node.description? : Node → Option String
  | .number _ => some "literal"
  | .text => some "literal"
  | .filledText => some "f-string expression"
  | .constant known => some known
  | .name _ => some "name"
  | .set _ => some "set display"
  | .dictionary _ => some "dict literal"
  | .signed _ => some "expression"
  | .sum .. => some "expression"
  | .call .. => some "function call"
  | .member => some "attribute"
  | .operation => some "expression"
  | .tuple _ => none
  | .condition => none
  | .starred => none

/-- Whether a node is the name of a statement of old. -/
def Node.isStatement : Node → Bool
  | .name word => word == "print" || word == "exec"
  | _ => false

/-! ### Reading -/

/-- Where an expression is read. -/
structure Setting where
  /-- The bracket that is open at the end of the tokens. -/
  opened : Option Bracket
  /-- Whether the expression stands between brackets. -/
  inside : Bool := false
  /-- Whether only the form matters, and not the cause of what is wrong. -/
  tentative : Bool := false

/-- A setting between brackets. -/
def Setting.within (setting : Setting) : Setting := { setting with inside := true }

/-- What is wrong if no token before `rest` is wrong. -/
def Setting.stop (setting : Setting) (rest : List Token) : Fault :=
  match rest, setting.opened with
  | [], some bracket => .neverClosed bracket
  | .backslash :: _, _ => .afterBackslash
  | _, _ => .misplaced

/-- Whether nothing more can be read after some tokens. -/
def cutOff (inside : Bool) : List Token → Bool
  | [] => inside
  | .backslash :: _ => true
  | _ => false

/-- The named cause of what is wrong, unless only the form matters. -/
def Setting.cause (setting : Setting) (fault : Fault) : Fault :=
  if setting.tentative then .misplaced else fault

/-- The symbols and words between two values that are compared. -/
def comparisons : List String := ["==", "!=", "<", "<=", ">", ">=", "in", "is"]

/-- What follows a comparison at the head of some tokens. -/
def afterComparison? : List Token → Option (List Token)
  | .keyword "not" :: .keyword "in" :: rest => some rest
  | .keyword "is" :: .keyword "not" :: rest => some rest
  | .keyword word :: rest => if comparisons.contains word then some rest else none
  | .symbol spelling :: rest => if comparisons.contains spelling then some rest else none
  | _ => none

/-- The symbols between the operands of an operation. -/
def operators : List String :=
  ["|", "^", "&", "<<", ">>", "+", "-", "*", "/", "//", "%", "@", "**"]

/-- The names that are no names everywhere. -/
def softKeywords : List String := ["_", "case", "match"]

/-- Whether the tokens of an expression may be followed by another one by oversight. -/
def lacksComma : List Token → Bool
  | .name _ :: .text _ :: _ => false
  | .name spelling :: _ => !softKeywords.contains spelling
  | _ => true

/-- Whether an assignment to what these tokens begin with is worth a word. -/
def assignable : List Token → Bool
  | .keyword word :: _ => !(["True", "False", "None"].contains word)
  | _ => true

/-- The words that begin an expression which has no place in a literal. -/
def openWords : List String := ["lambda", "yield"]

/-- The node of an operation with an operator. -/
def Node.combine (operator : String) (left right : Node) : Node :=
  if operator == "+" || operator == "-" then .sum left right else .operation

/-- The node of a sign before an operand. -/
def Node.withSign (sign : String) (operand : Node) : Node :=
  if sign == "~" then .operation else .signed operand

/-- The kinds of the texts at the head of some tokens, and the tokens after them. -/
def spanTexts : List Token → List TextKind × List Token
  | .text kind :: rest =>
    let (kinds, after) := spanTexts rest
    (kind :: kinds, after)
  | tokens => ([], tokens)

mutual

/-- An expression, with its causes of failure: a condition without alternative, and two expressions
side by side. -/
def expression (setting : Setting) :
    (fuel : Nat) → List Token → Except Fault (Node × List Token)
  | 0, _ => .error .misplaced
  | fuel + 1, tokens => do
    let (node, rest) ← disjunction setting fuel tokens
    match rest with
    | .keyword "if" :: more =>
      match disjunction setting fuel more with
      | .error .misplaced => return (node, rest)
      | .error fault => throw fault
      | .ok (_, .keyword "else" :: more) =>
        match expression setting fuel more with
        | .error .misplaced => return (node, rest)
        | .error fault => throw fault
        | .ok (_, rest) => return (.condition, rest)
      | .ok (_, .symbol ":" :: _) => return (node, rest)
      | .ok (_, after) =>
        throw (if cutOff setting.inside after then setting.stop after
          else setting.cause .missingElse)
    | _ =>
      if setting.tentative then return (node, rest)
      if lacksComma tokens then neighbour setting fuel node.isStatement rest
      match tokens with
      | .name word :: more => operandOf setting fuel word more
      | _ => pure ()
      return (node, rest)

/-- Refuses an expression that follows another one between brackets, unless that is the name of a
statement. -/
def neighbour (setting : Setting) (fuel : Nat) (isStatement : Bool) (tokens : List Token) :
    Except Fault Unit :=
  match fuel with
  | 0 => .ok ()
  | fuel + 1 =>
    match expression { setting with tentative := true } fuel tokens with
    | .error .misplaced => .ok ()
    | .error fault => .error fault
    | .ok (_, rest) =>
      if cutOff setting.inside rest then .error (setting.stop rest)
      else if setting.inside && !isStatement then .error .missingComma
      else .ok ()

/-- Refuses an expression that follows a name, if that is the name of a statement or the expression
has a fault of its own. -/
def operandOf (setting : Setting) (fuel : Nat) (word : String) (tokens : List Token) :
    Except Fault Unit :=
  match fuel with
  | 0 => .ok ()
  | fuel + 1 =>
    if tokens.head? = some (.opening .round) then .ok ()
    else match expression setting fuel tokens with
      | .error .misplaced => .ok ()
      | .error fault => .error fault
      | .ok (_, rest) =>
        if cutOff setting.inside rest then .error (setting.stop rest)
        else if (Node.name word).isStatement then .error (.bareCall word)
        else .ok ()

/-- Values of which one or all have to be true. -/
def disjunction (setting : Setting) :
    (fuel : Nat) → List Token → Except Fault (Node × List Token)
  | 0, _ => .error .misplaced
  | fuel + 1, tokens => do
    let (node, rest) ← negation setting fuel tokens
    match rest with
    | .keyword word :: more =>
      if word == "and" || word == "or" then
        match disjunction setting fuel more with
        | .ok (_, rest) => return (.condition, rest)
        | .error .misplaced => return (node, rest)
        | .error fault => throw fault
      else return (node, rest)
    | _ => return (node, rest)

/-- A value that must not be true, or a comparison. -/
def negation (setting : Setting) :
    (fuel : Nat) → List Token → Except Fault (Node × List Token)
  | 0, _ => .error .misplaced
  | fuel + 1, tokens => do
    match tokens with
    | .keyword "not" :: more =>
      let (_, rest) ← negation setting fuel more
      return (.condition, rest)
    | _ => comparison setting fuel tokens

/-- A value, or several that are compared. -/
def comparison (setting : Setting) :
    (fuel : Nat) → List Token → Except Fault (Node × List Token)
  | 0, _ => .error .misplaced
  | fuel + 1, tokens => do
    let (node, rest) ← operands setting fuel tokens
    if rest.head? = some (.keyword "not") && cutOff setting.inside (rest.drop 1) then
      throw (setting.stop (rest.drop 1))
    match afterComparison? rest with
    | some more =>
      match comparison setting fuel more with
      | .ok (_, rest) => return (.condition, rest)
      | .error .misplaced => return (node, rest)
      | .error fault => throw fault
    | none => return (node, rest)

/-- A value, or several with operators between them. -/
def operands (setting : Setting) :
    (fuel : Nat) → List Token → Except Fault (Node × List Token)
  | 0, _ => .error .misplaced
  | fuel + 1, tokens => do
    let (node, rest) ← operand setting fuel tokens
    moreOperands setting fuel node rest

/-- The rest of several values with operators between them. -/
def moreOperands (setting : Setting) :
    (fuel : Nat) → Node → List Token → Except Fault (Node × List Token)
  | 0, _, _ => .error .misplaced
  | fuel + 1, left, tokens => do
    match tokens with
    | .symbol operator :: more =>
      if operators.contains operator then
        match operand setting fuel more with
        | .ok (right, rest) => moreOperands setting fuel (left.combine operator right) rest
        | .error .misplaced => return (left, tokens)
        | .error fault => throw fault
      else return (left, tokens)
    | _ => return (left, tokens)

/-- A value, perhaps after signs. -/
def operand (setting : Setting) :
    (fuel : Nat) → List Token → Except Fault (Node × List Token)
  | 0, _ => .error .misplaced
  | fuel + 1, tokens => do
    match tokens with
    | .symbol sign :: more =>
      if ["+", "-", "~"].contains sign then
        let (node, rest) ← operand setting fuel more
        return (node.withSign sign, rest)
      else primary setting fuel tokens
    | _ => primary setting fuel tokens

/-- A value, perhaps with calls and members after it. -/
def primary (setting : Setting) :
    (fuel : Nat) → List Token → Except Fault (Node × List Token)
  | 0, _ => .error .misplaced
  | fuel + 1, tokens => do
    let (node, rest) ← match tokens with
      | .keyword "await" :: more => do
        let (_, rest) ← primary setting fuel more
        pure (.operation, rest)
      | _ => atom setting fuel tokens
    trailers setting fuel node rest

/-- The calls and members after a value. -/
def trailers (setting : Setting) :
    (fuel : Nat) → Node → List Token → Except Fault (Node × List Token)
  | 0, _, _ => .error .misplaced
  | fuel + 1, node, tokens => do
    match tokens with
    | .symbol "." :: .name _ :: rest => trailers setting fuel .member rest
    | .symbol "." :: rest =>
      if cutOff setting.inside rest then throw (setting.stop rest) else return (node, tokens)
    | .opening .round :: rest =>
      match arguments setting.within fuel rest with
      | .ok (nodes, rest) => trailers setting fuel (.call node nodes) rest
      | .error .misplaced => return (node, tokens)
      | .error fault => throw fault
    | _ => return (node, tokens)

/-- A value that is not made of others without brackets. -/
def atom (setting : Setting) :
    (fuel : Nat) → List Token → Except Fault (Node × List Token)
  | 0, _ => .error .misplaced
  | fuel + 1, tokens => do
    match tokens with
    | .name spelling :: rest => return (.name spelling, rest)
    | .number imaginary :: rest => return (.number imaginary, rest)
    | .text _ :: _ =>
      let (kinds, rest) := spanTexts tokens
      if cutOff setting.inside rest then throw (setting.stop rest)
      if kinds.contains .bytes && kinds.any (· ≠ .bytes) then throw .mixedTexts
      return (if kinds.contains .filled then .filledText else .text, rest)
    | .symbol "..." :: rest => return (.constant "ellipsis", rest)
    | .opening .round :: rest => group setting.within fuel rest
    | .opening .brace :: rest => braces setting.within fuel rest
    | .keyword word :: rest =>
      if !assignable tokens then return (.constant word, rest)
      else throw (if openWords.contains word then setting.stop rest else .misplaced)
    | _ => throw (setting.stop tokens)

/-- An expression between brackets, which may be set to a value by oversight. -/
def item (setting : Setting) :
    (fuel : Nat) → List Token → Except Fault (Node × List Token)
  | 0, _ => .error .misplaced
  | fuel + 1, tokens => do
    match tokens with
    | .symbol "*" :: more =>
      match operands setting fuel more with
      | .ok (_, rest) => return (.starred, rest)
      | .error .misplaced => throw (setting.cause .emptyStar)
      | .error fault => throw fault
    | _ =>
      let (node, rest) ← expression setting fuel tokens
      match rest with
      | .symbol ":=" :: more =>
        let (_, after) ← expression setting fuel more
        match tokens with
        | .name _ :: .symbol ":=" :: _ => return (.operation, after)
        | _ => throw (setting.cause
            ((node.description?.map Fault.binding).getD .misplaced))
      | .symbol "=" :: more =>
        match operands { setting with tentative := true } fuel more with
        | .error fault => throw fault
        | .ok (_, []) => throw (setting.stop [])
        | .ok (_, .backslash :: _) => throw .afterBackslash
        | .ok (_, .symbol "=" :: _) => throw .misplaced
        | .ok (_, .symbol ":=" :: _) => throw .misplaced
        | .ok _ =>
          match tokens with
          | .name _ :: .symbol "=" :: _ => throw (setting.cause .assignment)
          | _ =>
            if !assignable tokens then throw .misplaced
            else throw (setting.cause ((node.description?.map Fault.assignmentTo).getD .misplaced))
      | _ => return (node, rest)

/-- Items with commas between them, up to a closing bracket. -/
def items (setting : Setting) (closing : Bracket) :
    (fuel : Nat) → List Token → Except Fault (List Node × List Token)
  | 0, _ => .error .misplaced
  | fuel + 1, tokens => do
    if tokens.head? = some (.closing closing) then return ([], tokens.drop 1)
    let (node, rest) ← item setting fuel tokens
    match rest with
    | .symbol "," :: more =>
      let (others, rest) ← items setting closing fuel more
      return (node :: others, rest)
    | .closing bracket :: more =>
      if bracket = closing then return ([node], more) else throw .misplaced
    | _ => throw (setting.stop rest)

/-- The arguments of a call up to its closing bracket; they may be named or spread out. -/
def arguments (setting : Setting) :
    (fuel : Nat) → List Token → Except Fault (List Node × List Token)
  | 0, _ => .error .misplaced
  | fuel + 1, tokens => do
    if tokens.head? = some (.closing .round) then return ([], tokens.drop 1)
    let (node, rest) ← match tokens with
      | .name _ :: .symbol "=" :: more => expression setting fuel more
      | .symbol "**" :: more => expression setting fuel more
      | .symbol "*" :: more =>
        match expression setting fuel more with
        | .error .misplaced => .error (setting.cause .emptyStar)
        | reading => reading
      | _ => expression setting fuel tokens
    match rest with
    | .symbol "," :: more =>
      let (others, rest) ← arguments setting fuel more
      return (node :: others, rest)
    | .closing .round :: more => return ([node], more)
    | _ => throw (setting.stop rest)

/-- What stands after an opening round bracket. -/
def group (setting : Setting) :
    (fuel : Nat) → List Token → Except Fault (Node × List Token)
  | 0, _ => .error .misplaced
  | fuel + 1, tokens => do
    match tokens with
    | .closing .round :: rest => return (.tuple [], rest)
    | .symbol "**" :: more =>
      let (_, rest) ← expression setting fuel more
      match rest with
      | .closing .round :: _ => throw (setting.cause (.loneStar true))
      | _ => throw (setting.stop rest)
    | _ =>
      let (node, rest) ← item setting fuel tokens
      match rest with
      | .closing .round :: after =>
        match node with
        | .starred => throw (setting.cause (.loneStar false))
        | _ => return (node, after)
      | .symbol "," :: more =>
        let (others, after) ← items setting .round fuel more
        return (.tuple (node :: others), after)
      | _ => throw (setting.stop rest)

/-- What stands after an opening brace. -/
def braces (setting : Setting) :
    (fuel : Nat) → List Token → Except Fault (Node × List Token)
  | 0, _ => .error .misplaced
  | fuel + 1, tokens => do
    match tokens with
    | .closing .brace :: rest => return (.dictionary [], rest)
    | .symbol "**" :: _ =>
      let (entries, rest) ← dictionaryEntries setting false fuel tokens
      return (.dictionary entries, rest)
    | .symbol "*" :: _ =>
      let (nodes, rest) ← items setting .brace fuel tokens
      return (.set nodes, rest)
    | _ =>
      let (_, rest) ← expression setting fuel tokens
      match rest with
      | .symbol ":" :: _ =>
        let (entries, rest) ← dictionaryEntries setting false fuel tokens
        return (.dictionary entries, rest)
      | _ =>
        let (nodes, rest) ← items setting .brace fuel tokens
        return (.set nodes, rest)

/-- The entries of a dictionary up to the closing brace. -/
def dictionaryEntries (setting : Setting) (continued : Bool) :
    (fuel : Nat) → List Token → Except Fault (List (Option Node × Node) × List Token)
  | 0, _ => .error .misplaced
  | fuel + 1, tokens => do
    if tokens.head? = some (.closing .brace) then return ([], tokens.drop 1)
    let (entry, rest) ← match tokens with
      | .symbol "**" :: more => do
        let (node, rest) ← operands setting fuel more
        pure ((none, node), rest)
      | _ => do
        let (key, rest) ← expression setting fuel tokens
        match rest with
        | .symbol ":" :: .symbol "*" :: more =>
          let (_, _) ← operands setting fuel more
          throw (setting.cause .starredValue)
        | .symbol ":" :: more =>
          match more with
          | .closing .brace :: _ => throw (setting.cause .missingValue)
          | .symbol "," :: _ => throw (setting.cause .missingValue)
          | _ =>
            let (value, rest) ← expression setting fuel more
            pure ((some key, value), rest)
        | [] => throw (setting.stop rest)
        | .backslash :: _ => throw (setting.stop rest)
        | _ => throw (setting.cause (if continued then .missingColon else .misplaced))
    match rest with
    | .symbol "," :: more =>
      let (others, rest) ← dictionaryEntries setting true fuel more
      return (entry :: others, rest)
    | .closing .brace :: more => return ([entry], more)
    | _ => throw (setting.stop rest)

end

/-- Expressions with commas between them, up to the end of their line. -/
def row (setting : Setting) : (fuel : Nat) → List Token → Except Fault (List Node × List Token)
  | 0, _ => .error .misplaced
  | fuel + 1, tokens => do
    let (node, rest) ← expression setting (16 * (tokens.length + 1)) tokens
    match rest with
    | [.symbol ","] => return ([node], [])
    | .symbol "," :: .newLine :: more => return ([node], .newLine :: more)
    | .symbol "," :: more =>
      let (others, rest) ← row setting fuel more
      return (node :: others, rest)
    | _ => return ([node], rest)

/-- The expression that some tokens make; `opened` is the bracket that is open at their end. -/
def Node.ofTokens (tokens : List Token) (opened : Option Bracket) : Except Fault Node := do
  let setting : Setting := { opened }
  let (nodes, rest) ← row setting (tokens.length + 1) tokens
  if !(rest.all (· == .newLine)) then throw (setting.stop rest)
  match nodes, tokens.contains (.symbol ",") with
  | [node], false => return node
  | _, _ => return .tuple nodes

end CodeBrief.Expression
