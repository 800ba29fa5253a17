/-
**Blocks.**

A block is a text that begins at some place and ends with the brace that closes the first one it
opened. Braces are counted wherever they stand, in strings and comments too.

* `blockAt` — the block at the head of a text: up to the closing brace, or the whole text if its
  first brace is never closed, or nothing if it has no opening brace.
-/

namespace CodeBrief.Script

/-- The block at the head of a text, `depth` braces deep; `started` tells whether a brace has been
opened. Nothing is given if no brace has been and none follows. -/
def blockFrom (depth : Int) (started : Bool) : List Char → Option (List Char)
  | [] => if started then some [] else none
  | c :: rest =>
    if c = '{' then (blockFrom (depth + 1) true rest).map (c :: ·)
    else if c = '}' then
      if started ∧ depth = 1 then some [c]
      else (blockFrom (depth - 1) started rest).map (c :: ·)
    else (blockFrom depth started rest).map (c :: ·)

/-- The block at the head of `text`. -/
def blockAt (text : List Char) : List Char :=
  (blockFrom 0 false text).getD []

/-- The block of `content` that begins after `start` characters. -/
def block (content : String) (start : Nat) : String :=
  String.ofList (blockAt (content.toList.drop start))

end CodeBrief.Script
