import CodeTwins.Client.Calls
import CodeTwins.Command.Line
import CodeTwins.Command.Shell
import CodeTwins.Decimal.Fixed
import CodeTwins.Scan.Excluded
import CodeTwins.Scan.Walk

/-!
# Commands that report

Pairs of similar elements, elements that fit a text, and what a directory holds. Of more pairs than the
limit allows it is told that there are more, and the command fails if the configuration says so.
-/
namespace CodeTwins.Command

open Files

variable {σ : Type}

def percent (similarity : Float) : String :=
  Decimal.fixed 1 (similarity * 100) ++ "%"

/-- The text of an element that may hold any value. -/
def textOf (e : Element Json) : Act σ String :=
  match e.text with
  | .str s => pure s
  | j => throw (.defect (.misfit (.noFields j.kind "split")))

/-- The first lines of an element, and a mark if there are more. -/
def snippet (maxLines : Nat) (text : String) : String :=
  Element.preview maxLines text ++
    (if Element.lineCount text > maxLines then "\n   ..." else "")

def named (e : Element Json) : String :=
  e.metadata.elementName.plain ++ " (" ++ e.metadata.location ++ ")"

/-- Tells of a pair, the one of a number. -/
def sayPair (number : Nat) (p : SimilarPair Json) : Act σ Unit := do
  say ("\n" ++ toString number ++ ". Similarity: " ++ percent p.similarity)
  say ("   Element 1: " ++ named p.first)
  say ("   Element 2: " ++ named p.second)
  say "   ---"
  say "   Element 1 Snippet:"
  say (snippet 3 (← textOf p.first))
  say "   Element 2 Snippet:"
  say (snippet 3 (← textOf p.second))

/-- Tells of a result, the one of a number. -/
def sayResult (number : Nat) (r : SearchResult Json) : Act σ Unit := do
  say ("\n" ++ toString number ++ ". " ++ r.element.metadata.elementName.plain ++
    " (Similarity: " ++ percent r.similarity ++ ")")
  say ("   File: " ++ r.element.metadata.location)
  say "   ---"
  say (snippet 5 (← textOf r.element))

/-- Tells of all members of a list, numbered from one. -/
def sayAll {β : Type} (tell : Nat → β → Act σ Unit) : Nat → List β → Act σ Unit
  | _, [] => pure ()
  | n, b :: bs => do
    tell n b
    sayAll tell (n + 1) bs

/-- Warns of more matches than the limit allows, and ends there if that is to be a failure. -/
def checkExceeded (count : Nat) (limit : Int) (action : Toml.Value) : Act σ Unit := do
  if limit < count then
    complain ("\n⚠️  WARNING: Found " ++ toString count ++
      " similar matches, which exceeds the limit of " ++ toString limit ++ ".")
    match action with
    | .str "fail" =>
      complain "Action configured to \"fail\". Exiting with non-zero code."
      throw (.exit 1)
    | _ => pure ()

/-- Tells of pairs, as many as the limit allows. -/
def sayPairs (config : ScanConfig) (pairs : List (SimilarPair Json)) : Act σ Unit := do
  if pairs.isEmpty then say "No similar element pairs found."
  else
    let shown := pairs.take config.limit.toNat
    let more := if config.limit < pairs.length then "more than " else ""
    say ("Found " ++ more ++ toString shown.length ++ " similar element pairs:")
    sayAll sayPair 1 shown
    checkExceeded pairs.length config.limit config.onExceed

/-- Tells of the most similar pairs. One pair more than the limit is asked for, so that an exceeded
limit shows. -/
def Surroundings.similar (w : Surroundings σ) (threshold : Option Float) (limit : Option Int)
    (onExceed url : Option String) : Act σ Unit := do
  let config ← w.configOf w.directory
    { url, limit, onExceed, threshold := threshold.map .real }
  let c ← w.connect config.serverUrl
  say ("Using server: " ++ c.address)
  let limitText ← orStop (fun m => .defect (.misfit m)) (Json.intText config.limit)
  say ("Finding most similar pairs (threshold: " ++ config.threshold.text ++ ", limit: " ++
    limitText ++ ")...")
  let pairs ← ask (c.findPairs config.threshold (config.limit + 1))
  sayPairs config pairs

def sayResults (results : List (SearchResult Json)) : Act σ Unit := do
  if results.isEmpty then say "No matching elements found."
  else
    say ("\nFound " ++ toString results.length ++ " results:")
    sayAll sayResult 1 results

def Surroundings.search (w : Surroundings σ) (words : List String) (threshold : Float)
    (limit : Option Int) (url : Option String) : Act σ Unit := do
  let text := String.intercalate " " words
  let config ← w.configOf w.directory { url, limit }
  let c ← w.connect config.serverUrl
  say ("Using server: " ++ c.address)
  let limitText ← orStop (fun m => .defect (.misfit m)) (Json.intText config.limit)
  say ("Searching for: \"" ++ text ++ "\" (threshold: " ++ Decimal.text threshold ++
    ", limit: " ++ limitText ++ ")...")
  let results ← ask (c.search text (.real threshold) config.limit)
  sayResults results

def Surroundings.wipe (w : Surroundings σ) (url : Option String) : Act σ Unit := do
  let config ← w.configOf w.directory { url }
  let c ← w.connect config.serverUrl
  let deleted ← ask c.wipe
  say ("🗑️  Deleted " ++ toString deleted ++ " elements.")

def quotedList (texts : List String) : String :=
  if texts.isEmpty then "(none)"
  else String.intercalate ", " (texts.map fun t => "'" ++ t ++ "'")

def fileNames (text : String) : List String :=
  (((Text.splitOn ',' text.toList).map Text.trim).filter (!·.isEmpty)).map String.ofList

/-- Tells of the extensions in a directory, and of the directories that its ignore files exclude. -/
def Surroundings.discover (w : Surroundings σ) (path ignoreFiles : String) : Act σ Unit := do
  let tree := (← get).tree
  let root := w.directory.resolve path
  if !tree.existsAt root then fail ("Path does not exist: " ++ root.text)
  if !tree.isDirAt root then fail ("Path is not a directory: " ++ root.text)
  let patterns ← orStop (fun m => .defect (.text m))
    (IgnoreFiles.load tree root (fileNames ignoreFiles))
  let extensions := Scan.detect w.registry tree root (({} : ScanConfig).ignore ++ patterns)
  say ("DISCOVERED EXTENSIONS: " ++ quotedList extensions)
  say ("EXCLUDED DIRECTORIES: " ++ quotedList (Scan.excludedDirectories patterns))

end CodeTwins.Command
