import CodeTwins.Text.Trim
import CodeTwins.Unicode.LetterCase

/-!
# Paths

A path is the list of the names that lead to a file or directory from the top of the file tree. It is
written with a slash before each name.
-/
namespace CodeTwins.Files

abbrev Path := List String

def joinNames (names : List String) : String :=
  String.intercalate "/" names

def partsOf (text : String) : List String :=
  ((Text.splitOn '/' text.toList).map String.ofList).filter fun part => part ≠ "" ∧ part ≠ "."

namespace Path

def text (p : Path) : String :=
  "/" ++ joinNames p

/-- One step along a path: two points lead back. -/
def step (p : Path) (part : String) : Path :=
  if part = ".." then p.dropLast else p ++ [part]

/-- Where a written path leads from a directory; with a slash at its start, from the top. Two points
lead back by the letters alone, whether or not the directory that they lead out of exists. -/
def resolve (start : Path) (text : String) : Path :=
  (partsOf text).foldl step (if text.toList.head? = some '/' then [] else start)

def parent (p : Path) : Path :=
  p.dropLast

def name (p : Path) : String :=
  p.getLastD ""

def below? : Path → Path → Option Path
  | [], p => some p
  | d :: ds, n :: ns => if d = n then below? ds ns else none
  | _ :: _, [] => none

def shared : Path → Path → Nat
  | a :: p, b :: q => if a = b then shared p q + 1 else 0
  | _, _ => 0

/-- The way from one directory to another place, as it is written. -/
def relativeTo (start p : Path) : String :=
  let n := shared start p
  let way := List.replicate (start.length - n) ".." ++ p.drop n
  if way.isEmpty then "." else joinNames way

end Path

/-- What follows the last point of a name, in lower case and without points. A point at the start or
at the end of a name begins nothing. -/
def extensionOf (name : String) : String :=
  let reversed := name.toList.reverse
  let tail := (reversed.takeWhile (· ≠ '.')).reverse
  let before := (reversed.dropWhile (· ≠ '.')).drop 1
  if tail.isEmpty ∨ before.isEmpty then ""
  else String.ofList (Text.trimStart (· == '.') (Unicode.lower (String.ofList ('.' :: tail))).toList)

end CodeTwins.Files
