import CodeTwins.Config.Layers
import CodeTwins.Config.IgnoreFiles
import CodeTwins.Scan.Ignore

/-!
# Walks through a file tree

A walk takes the entries of a directory by name and leaves out those that are ignored. A survey takes
the files of a directory before what is in its directories. Places are relative to the directory where
the walk or the survey starts.
-/
namespace CodeTwins.Scan

open Files

/-- What a walk finds: the files, and the directories that it does not enter. -/
structure Walk where
  files : List Path := []
  closed : List Path := []
deriving DecidableEq, Repr

/-- What two walks find, one after the other. -/
def Walk.append (a b : Walk) : Walk :=
  ⟨a.files ++ b.files, a.closed ++ b.closed⟩

/-- Entries with one more, in its place by name. -/
def insertEntry (entry : String × Node) : List (String × Node) → List (String × Node)
  | [] => [entry]
  | other :: rest =>
    if entry.1 ≤ other.1 then entry :: other :: rest else other :: insertEntry entry rest

mutual

def sorted : Node → Node
  | .file bytes => .file bytes
  | .dir entries => .dir (sortedEntries entries)

def sortedEntries : List (String × Node) → List (String × Node)
  | [] => []
  | (name, n) :: rest => insertEntry (name, sorted n) (sortedEntries rest)

end

mutual

def walkAt (isSkipped : Path → Bool) (isClosed : Node → Bool) (place : Path) (n : Node) : Walk :=
  if isSkipped place then {}
  else
    match n with
    | .file _ => { files := [place] }
    | .dir entries =>
      if isClosed (.dir entries) then { closed := [place] }
      else walkIn isSkipped isClosed place entries

def walkIn (isSkipped : Path → Bool) (isClosed : Node → Bool) (place : Path) :
    List (String × Node) → Walk
  | [] => {}
  | (name, n) :: rest =>
    (walkAt isSkipped isClosed (place ++ [name]) n).append (walkIn isSkipped isClosed place rest)

end

/-- The walk through what is not ignored in a directory. What is no directory has nothing in it. -/
def walk (tree : Node) (start : Path) (ignored : List String) (isClosed : Node → Bool) : Walk :=
  match tree.at? start with
  | some n =>
    walkIn (fun place => Ignore.isIgnored ignored (joinNames place)) isClosed []
      (sorted n).entries
  | none => {}

/-- The files to scan in a directory, and the directories below it with a configuration of their
own. -/
structure Plan where
  files : List Path := []
  subScans : List Path := []
deriving DecidableEq, Repr

def hasConfig (n : Node) : Bool :=
  n.isFileAt [ScanConfig.fileName]

/-- What there is to scan in a directory for some extensions. Directories with a configuration of their
own are not entered. -/
def collect (tree : Node) (start : Path) (extensions ignored : List String) : Plan :=
  let wanted := extensions.map normalExtension
  let found := walk tree start ignored hasConfig
  { files := (found.files.filter fun p => wanted.contains (extensionOf p.name)).map (start ++ ·)
    subScans := found.closed.map (start ++ ·) }

mutual

/-- The files of a directory that are not skipped, and then those in its directories. Directories that
are skipped are not entered. -/
def surveyAt (isSkipped : Path → Bool) (place : Path) : Node → List Path
  | .file _ => []
  | .dir entries =>
    ((entries.filter (!·.2.isDir)).map fun entry => place ++ [entry.1]).filter (!isSkipped ·) ++
      surveyIn isSkipped place entries

def surveyIn (isSkipped : Path → Bool) (place : Path) : List (String × Node) → List Path
  | [] => []
  | (name, n) :: rest =>
    (if isSkipped (place ++ [name]) then [] else surveyAt isSkipped (place ++ [name]) n) ++
      surveyIn isSkipped place rest

end

/-- The files in a directory and below it, as far as nothing on the way to them is ignored. -/
def survey (tree : Node) (start : Path) (ignored : List String) : List Path :=
  match tree.at? start with
  | some n => surveyAt (fun place => Ignore.isIgnored ignored (joinNames place)) [] n
  | none => []

/-- Extensions of source files that are reported also where no language has them. -/
def commonExtensions : List String :=
  ["py", "go", "rs", "cpp", "c", "h", "java", "rb"]

/-- Texts in order, each once. -/
def distinct (texts : List String) : List String :=
  texts.eraseDups.mergeSort (· ≤ ·)

def isShortExtension (ext : String) : Bool :=
  !ext.isEmpty && ext.length ≤ 4 && ext.toList.all fun c => c.isLower || c.isDigit

/-- The extensions of the files in a directory that look like source files. -/
def detect (r : Registry) (tree : Node) (start : Path) (ignored : List String) : List String :=
  let found := (survey tree start ignored).map fun p => extensionOf p.name
  distinct (found.filter fun ext =>
    isShortExtension ext && (r.extensions.contains ext || commonExtensions.contains ext))

/-- The patterns of a configuration, and those of the ignore files in a directory. -/
def ignoredIn (tree : Node) (directory : Path) (c : ScanConfig) :
    Except Utf8.Malformed (List String) := do
  return c.ignore ++ (← IgnoreFiles.load tree directory c.ignoreFiles)

end CodeTwins.Scan
