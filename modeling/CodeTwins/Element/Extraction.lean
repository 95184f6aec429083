import CodeTwins.Element
import CodeTwins.Pattern.Signature
import CodeTwins.Source.Block
import CodeTwins.Source.Comment

/-!
# Extraction of elements

An element is found where a signature pattern matches outside of comments and a block follows that
ends. Matches are taken pattern by pattern and from left to right, and of several with one start the
first that gives an element counts.
-/
namespace CodeTwins.Extraction

open Source

/-- A match of a signature pattern: its span and the text of its first group, if it has one. -/
structure Found where
  start : Nat
  stop : Nat
  firstGroup : Option (List Char)
deriving DecidableEq, Repr

/-- What is recorded with every element of a file. -/
structure Origin where
  filePath : String := ""
  fileHash : Option String := none
  commitHash : Option String := none
  basePath : Option String := none
deriving DecidableEq, Repr

def foundBy (text : List Char) (p : SignaturePattern) : List Found :=
  (p.expr.matches text.toArray).map fun m =>
    { start := m.start
      stop := m.stop
      firstGroup := (Pattern.Mark.span? ⟨m.stop, m.spans⟩ 1).map fun (a, b) => slice text a b }

/-- Where the block after a match starts and ends, if the match makes an element. -/
def blockOf (text : List Char) (isExcluded : List Char → Bool) (m : Found) : Option (Nat × Nat) :=
  if isExcluded (slice text m.start m.stop) then none
  else if isInsideComment text m.start then none
  else do
    let opening ← bodyStart text m.stop
    let closing ← bodyEnd text opening
    return (opening, closing)

/-- The name of an element: the first group, or else the signature without blanks around it. -/
def nameOf (text : List Char) (m : Found) : String :=
  match m.firstGroup with
  | some (c :: cs) => String.ofList (c :: cs)
  | _ => String.ofList (Text.trim (slice text m.start m.stop))

/-- The line of a position, counted from one. -/
def lineOf (text : List Char) (position : Nat) : Nat :=
  (text.take position).count '\n' + 1

def elementOf (text : List Char) (origin : Origin) (m : Found) (closing : Nat) : Element :=
  { metadata :=
      { filePath := origin.filePath
        lineNumber := lineOf text m.start
        elementName := nameOf text m
        commitHash := origin.commitHash
        fileHash := origin.fileHash
        basePath := origin.basePath }
    text := String.ofList (slice text m.start closing) }

/-- The elements of a sequence of matches, given the starts of those already taken. -/
def elementsFrom (text : List Char) (isExcluded : List Char → Bool) (origin : Origin) :
    List Nat → List Found → List Element
  | _, [] => []
  | claimed, m :: ms =>
    match blockOf text isExcluded m with
    | none => elementsFrom text isExcluded origin claimed ms
    | some (_, closing) =>
      if claimed.contains m.start then elementsFrom text isExcluded origin claimed ms
      else elementOf text origin m closing ::
        elementsFrom text isExcluded origin (m.start :: claimed) ms

/-- The elements that patterns find in a text, save those whose signature an exclude pattern matches
anywhere. -/
def elements (text : List Char) (includes excludes : List SignaturePattern) (origin : Origin) :
    List Element :=
  elementsFrom text (fun signature => excludes.any (·.occursIn signature)) origin []
    (includes.flatMap (foundBy text))

def extract (text : String) (includes excludes : List String) (origin : Origin) :
    Except BadPattern (List Element) := do
  let includes ← SignaturePattern.compileAll includes
  let excludes ← SignaturePattern.compileAll excludes
  return elements text.toList includes excludes origin

end CodeTwins.Extraction
