import CodeTwins.Json.Shape
import CodeTwins.Text.Trim

/-!
# Code elements

A code element is a piece of source text with the place where it was found. Names, paths and hashes
are texts in all elements that the library makes itself; in elements that a foreign service sends,
they are whatever JSON values stand there.
-/
namespace CodeTwins

/-- Where an element was found. -/
structure Metadata (τ : Type := String) where
  filePath : τ
  lineNumber : Int
  elementName : τ
  commitHash : Option τ := none
  fileHash : Option τ := none
  basePath : Option τ := none
deriving DecidableEq, Repr, Inhabited

/-- An element: its place and its text. -/
structure Element (τ : Type := String) where
  metadata : Metadata τ
  text : τ
deriving DecidableEq, Repr, Inhabited

/-- What identifies the text of an element for the embedding cache. -/
structure CacheKey (τ : Type := String) where
  fileHash : τ
  elementName : τ
  lineNumber : Int
deriving DecidableEq, Repr

def Metadata.map {σ τ : Type} (f : σ → τ) (m : Metadata σ) : Metadata τ :=
  { filePath := f m.filePath
    lineNumber := m.lineNumber
    elementName := f m.elementName
    commitHash := m.commitHash.map f
    fileHash := m.fileHash.map f
    basePath := m.basePath.map f }

def Element.map {σ τ : Type} (f : σ → τ) (e : Element σ) : Element τ :=
  ⟨e.metadata.map f, f e.text⟩

namespace Metadata

/-- The cache key, if the hash of the file is known. -/
def keyWith {τ : Type} (isGiven : τ → Bool) (m : Metadata τ) : Option (CacheKey τ) :=
  match m.fileHash with
  | some h => if isGiven h then some ⟨h, m.elementName, m.lineNumber⟩ else none
  | none => none

/-- The cache key, if the hash of the file is known. -/
def cacheKey (m : Metadata) : Option CacheKey :=
  m.keyWith fun h => !h.isEmpty

def location (m : Metadata Json) : String :=
  m.filePath.plain ++ ":" ++ toString m.lineNumber

/-- Metadata as a JSON object; what is not known is left out. -/
def toJson (m : Metadata Json) : Json :=
  let known (name : String) (v : Option Json) : List (String × Json) :=
    (v.map fun j => (name, j)).toList
  .obj ([("filePath", m.filePath), ("lineNumber", .int m.lineNumber),
    ("elementName", m.elementName)] ++ known "commitHash" m.commitHash ++
    known "fileHash" m.fileHash ++ known "basePath" m.basePath)

/-- A field that may be absent or null. -/
def optionalField (name : String) (fields : List (String × Json)) : Option Json :=
  match Json.field? name fields with
  | none => none
  | some .null => none
  | some j => some j

/-- Metadata from a JSON object. Missing fields are empty, and the line is read as an integer. -/
def ofJson (j : Json) : Except Misfit (Metadata Json) := do
  let fields ← j.fields
  let line ← ((Json.field? "lineNumber" fields).getD (.int 0)).toInt
  return {
    filePath := (Json.field? "filePath" fields).getD (.str "")
    lineNumber := line
    elementName := (Json.field? "elementName" fields).getD (.str "")
    commitHash := optionalField "commitHash" fields
    fileHash := optionalField "fileHash" fields
    basePath := optionalField "basePath" fields }

end Metadata

namespace Element

def loose (e : Element) : Element Json :=
  e.map Json.str

def toJson (e : Element Json) : Json :=
  .obj [("metadata", e.metadata.toJson), ("elementString", e.text)]

/-- The JSON value of an element that is to be written, unless its line has too many digits. -/
def encode (e : Element) : Except Misfit Json :=
  (Json.intText e.metadata.lineNumber).map fun _ => e.loose.toJson

/-- An element from a JSON object. Missing parts are empty. -/
def ofJson (j : Json) : Except Misfit (Element Json) := do
  let fields ← j.fields
  let metadata := (Json.field? "metadata" fields).getD .null
  let m ← Metadata.ofJson (if metadata.isGiven then metadata else .obj [])
  return ⟨m, (Json.field? "elementString" fields).getD (.str "")⟩

def lineCount (text : String) : Nat :=
  text.toList.count '\n' + 1

/-- The first lines of a text; with a negative count, all but that many at the end. -/
def preview (maxLines : Int) (text : String) : String :=
  let ls := Text.splitOn '\n' text.toList
  let n := if maxLines < 0 then ls.length - maxLines.natAbs else maxLines.toNat
  String.ofList (Text.joinWith '\n' (ls.take n))

/-- How many lines a preview has unless told otherwise. -/
def previewLines : Int := 3

/-- The text of an element, of which lines are wanted. -/
def sourceText (e : Element Json) : Except Misfit String :=
  match e.text with
  | .str s => .ok s
  | .arr items => .error (.noFields (Json.arr items).kind "split")
  | j => .error (.noFields j.kind "count")

end Element

/-- Two elements and how alike they are. -/
structure SimilarPair (τ : Type := String) where
  first : Element τ
  second : Element τ
  similarity : Float

/-- An element and how alike it is to what was asked for. -/
structure SearchResult (τ : Type := String) where
  element : Element τ
  similarity : Float

namespace SimilarPair

def toJson (p : SimilarPair Json) : Json :=
  .obj [("element1", p.first.toJson), ("element2", p.second.toJson),
    ("similarity", .float p.similarity)]

def ofJson (j : Json) : Except Misfit (SimilarPair Json) := do
  let first ← Element.ofJson (← j.required "element1")
  let second ← Element.ofJson (← j.required "element2")
  return ⟨first, second, ← (← j.required "similarity").toFloat⟩

end SimilarPair

namespace SearchResult

def toJson (r : SearchResult Json) : Json :=
  .obj [("element", r.element.toJson), ("similarity", .float r.similarity)]

def ofJson (j : Json) : Except Misfit (SearchResult Json) := do
  let element ← Element.ofJson (← j.required "element")
  return ⟨element, ← (← j.required "similarity").toFloat⟩

end SearchResult
end CodeTwins
