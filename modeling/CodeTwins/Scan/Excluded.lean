import CodeTwins.Scan.Walk
import CodeTwins.Text.Trim

/-!
# Excluded directories

The names of directories that ignore patterns seem to exclude. Only a pattern that clearly names a
directory counts, and a name with a point is taken for that of a file.
-/
namespace CodeTwins.Scan

/-- Characters that a plain name does not hold. -/
def isSpecial (c : Char) : Bool :=
  c == '*' || c == '?' || c == '/'

/-- The name after the first two stars and slash that a name follows. -/
def nameBelowAny : List Char → Option (List Char)
  | [] => none
  | c :: cs =>
    if ['*', '*', '/'].isPrefixOf (c :: cs) && !(cs.drop 2).head?.all isSpecial then
      some ((cs.drop 2).takeWhile (!isSpecial ·))
    else nameBelowAny cs

def directoryNamed (pattern : List Char) : Option (List Char) :=
  if pattern.getLast? == some '/' then some pattern.dropLast
  else if pattern.head? == some '/' then some (pattern.drop 1)
  else if Text.occursIn ['*', '*', '/'] pattern then nameBelowAny pattern
  else if !pattern.any isSpecial then some pattern
  else if !pattern.contains '*' && !pattern.contains '?' then
    ((Text.splitOn '/' pattern).filter fun part => !part.isEmpty && !part.contains '.').getLast?
  else none

def isDirectoryName (name : List Char) : Bool :=
  !name.isEmpty && !name.contains '.' && name.length < 50

def excludedDirectories (patterns : List String) : List String :=
  distinct ((patterns.filterMap fun p => (directoryNamed p.toList).filter isDirectoryName).map
    String.ofList)

end CodeTwins.Scan
