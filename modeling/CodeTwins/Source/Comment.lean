/-!
# Comments by position

Whether a position of a source text lies in a comment, judged from the text around it: a `//` earlier
on the line decides, and else the nearest `/*` before the position with the first `*/` after it.
-/
namespace CodeTwins.Source

def slice (text : List Char) (start stop : Nat) : List Char :=
  (text.take stop).drop start

def findPair (a b : Char) : List Char → Option Nat
  | c :: d :: cs => if c = a ∧ d = b then some 0 else (findPair a b (d :: cs)).map (· + 1)
  | _ => none

def findLastPair (a b : Char) : List Char → Option Nat
  | c :: d :: cs =>
    match findLastPair a b (d :: cs) with
    | some i => some (i + 1)
    | none => if c = a ∧ d = b then some 0 else none
  | _ => none

/-- The part of a text after its last newline. -/
def lastLine (text : List Char) : List Char :=
  (text.reverse.takeWhile (· != '\n')).reverse

/-- Whether a position lies in a comment. A `//` anywhere earlier on its line puts it in one. Else it
lies in one if no `*/` follows the nearest `/*` before it; one whose slash stands at the position
itself still ends the comment. -/
def isInsideComment (text : List Char) (position : Nat) : Bool :=
  let before := text.take position
  if (findPair '/' '/' (lastLine before)).isSome then true
  else
    match findLastPair '/' '*' before with
    | none => false
    | some opener => (findPair '*' '/' (slice text (opener + 2) (position + 1))).isNone

end CodeTwins.Source
