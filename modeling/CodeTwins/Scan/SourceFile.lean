import CodeTwins.Config.Basic
import CodeTwins.Digest.Sha256
import CodeTwins.Element.Extraction
import CodeTwins.Files.Tree
import CodeTwins.Text.Utf8

/-!
# Source files

Elements of the files in a tree. Bytes that are no text are replaced, and all ends of lines are
newlines.
-/
namespace CodeTwins.SourceFile

open Files

/-- Why a file has no elements. -/
inductive Failure where
  | file (f : Fault)
  | pattern (b : BadPattern)

def Failure.message : Failure → String
  | file f => f.message
  | pattern b => b.message

def textOf (bytes : List UInt8) : String :=
  String.ofList (Text.unifyNewlines (Utf8.lossy bytes))

def extract (tree : Node) (path : Path) (includes excludes : List String)
    (origin : Extraction.Origin) : Except Failure (List Element) := do
  let bytes ← (tree.read path).mapError .file
  (Extraction.extract (textOf bytes) includes excludes origin).mapError .pattern

/-- How a file is shown below a directory; by its name if it is elsewhere. -/
def shownBelow (directory path : Path) : String :=
  match directory.below? path with
  | some [] => "."
  | some names => joinNames names
  | none => path.name

/-- The patterns for a file: those of the configuration for its extension, or in their place a single
one that is asked for. -/
def patternsFor (c : ScanConfig) (r : Registry) (path : Path) (asked : Option String) :
    List String × List String :=
  match asked.filter (!·.isEmpty) with
  | some pattern => ([pattern], [])
  | none => c.patternsFor r (extensionOf path.name)

/-- The elements of a file in a directory, with the digest of its bytes. -/
def scan (r : Registry) (c : ScanConfig) (tree : Node) (directory path : Path)
    (asked commit : Option String) : Except Failure (List Element) := do
  let bytes ← (tree.read path).mapError .file
  let (includes, excludes) := patternsFor c r path asked
  extract tree path includes excludes
    { filePath := shownBelow directory path
      fileHash := some (Sha256.hex bytes)
      commitHash := commit
      basePath := some directory.text }

end CodeTwins.SourceFile
