/-!
# Blocks

The block of an element is what stands between a brace and the one that closes it, braces being
counted wherever they stand.
-/
namespace CodeTwins.Source

/-- How many characters before the first brace of a text that has no backslash before it; none if a
semicolon or a closing brace comes first. The character before the text is given. -/
def gapLength (before : Option Char) : List Char → Option Nat
  | [] => none
  | c :: cs =>
    if c = '{' then
      if before = some '\\' then (gapLength (some c) cs).map (· + 1) else some 0
    else if c = ';' ∨ c = '}' then none
    else (gapLength (some c) cs).map (· + 1)

/-- Where the block after an offset starts. -/
def bodyStart (text : List Char) (offset : Nat) : Option Nat :=
  let before := if offset = 0 then none else text[offset - 1]?
  (gapLength before (text.drop offset)).map (offset + ·)

def depthChange (c : Char) : Int :=
  if c = '{' then 1 else if c = '}' then -1 else 0

/-- How many characters until the depth is zero again after a character. -/
def closeLength (depth : Int) : List Char → Option Nat
  | [] => none
  | c :: cs =>
    if depth + depthChange c = 0 then some 1
    else (closeLength (depth + depthChange c) cs).map (· + 1)

def bodyEnd (text : List Char) (start : Nat) : Option Nat :=
  (closeLength 0 (text.drop start)).map (start + ·)

end CodeTwins.Source
