import CodeTwins.Text.Trim

/-!
# Chunks of a text

A text longer than the limit is cut into pieces that are not. Lines are packed into a piece as long
as they fit. A line that is itself too long is cut at multiples of the limit, and what is left of it
starts the next piece. Packed pieces lose the white space at their ends, and blank pieces are dropped.
-/
namespace CodeTwins.Embedding

/-- A piece of a text: cut out of a long line, or packed from lines. -/
inductive Piece where
  | cut (text : List Char)
  | packed (text : List Char)
deriving DecidableEq, Repr

namespace Piece

def source : Piece → List Char
  | cut text => text
  | packed text => text

def chunk : Piece → List Char
  | cut text => text
  | packed text => Text.trim text

end Piece

def linesKept : List Char → List (List Char)
  | [] => []
  | c :: cs =>
    if c = '\n' then [c] :: linesKept cs
    else
      match linesKept cs with
      | [] => [[c]]
      | line :: lines => (c :: line) :: lines

/-- Cuts a line at multiples of the limit, as long as it is longer than that. -/
def cutLine (limit : Nat) (line : List Char) : List Piece × List Char :=
  if 0 < limit ∧ limit < line.length then
    let (pieces, rest) := cutLine limit (line.drop limit)
    (.cut (line.take limit) :: pieces, rest)
  else ([], line)
termination_by line.length
decreasing_by simp only [List.length_drop]; omega

/-- A packed piece, if there is anything in it. -/
def flush (current : List Char) : List Piece :=
  if current.isEmpty then [] else [.packed current]

def pack (limit : Nat) (current : List Char) : List (List Char) → List Piece
  | [] => flush current
  | line :: lines =>
    if limit < line.length then
      let (pieces, rest) := cutLine limit line
      flush current ++ pieces ++ pack limit rest lines
    else if limit < current.length + line.length then flush current ++ pack limit line lines
    else pack limit (current ++ line) lines

def pieces (limit : Nat) (text : List Char) : List Piece :=
  pack limit [] (linesKept text)

/-- Whether a text is nothing but white space. -/
def isBlank (text : List Char) : Bool :=
  (Text.trim text).isEmpty

def chunks (limit : Nat) (text : String) : List String :=
  let cs := text.toList
  if cs.length ≤ limit then [text]
  else (((pieces limit cs).map Piece.chunk).filter (!isBlank ·)).map String.ofList

end CodeTwins.Embedding
