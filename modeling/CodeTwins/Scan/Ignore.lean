import CodeTwins.Scan.Wildcard
import CodeTwins.Text.Trim

/-!
# Ignored places

Patterns say which places below a directory are ignored. A pattern with a slash at its end names a
directory at any depth, with all that is in it. Any other pattern is taken without the slashes at its
start and matched against the whole place, and against the last name alone if it has no slash then.
Patterns with an exclamation mark at their start have no effect. The names of a place are parted by
slashes or by backslashes; in a pattern a backslash stands for itself.
-/
namespace CodeTwins.Ignore

open Wildcard

/-- The place that a written path stands for. Its backslashes part names as slashes do. -/
def placeOf (written : String) : List Char :=
  written.toList.map fun c => if c = '\\' then '/' else c

def lastName (place : List Char) : List Char :=
  (place.reverse.takeWhile (· ≠ '/')).reverse

/-- Whether a place is, or lies in, a directory that the parts stand for. -/
def isWithin (directory : List Part) (place : List Char) : Bool :=
  let above := [.run, .char '/']
  let below := [.char '/', .run]
  isMatch directory place || isMatch (directory ++ below) place ||
    isMatch (above ++ directory) place || isMatch (above ++ directory ++ below) place

def names (pattern place : List Char) : Bool :=
  if pattern.isEmpty || pattern.head? == some '!' then false
  else if pattern.getLast? == some '/' then
    let directory := Text.trimEnd (· == '/') (Text.trimStart (· == '/') pattern)
    !directory.isEmpty && isWithin (ofText directory) place
  else
    let rest := Text.trimStart (· == '/') pattern
    isMatch (ofText rest) place ||
      (!rest.contains '/' && isMatch (ofText rest) (lastName place))

def isIgnored (patterns : List String) (written : String) : Bool :=
  patterns.any fun pattern => names pattern.toList (placeOf written)

end CodeTwins.Ignore
